/-
**The order of members.**

* `Reordered`: a value with the members of its objects, at any depth, in another order;
* `Reordered.isWhole_eq`, `Reordered.isSound_eq`, `Reordered.depth_eq`: what holds of the parts of a value
  holds of them in any order;
* `Orderless`: a reader that gives **the same whatever the order**; `orderless_of` — it is one if it takes
  no note of the order of members, and gives the same for parts that are reordered;
* `field?_of_perm`, `field?_alike`: the fields of objects that are reordered are; so are those of records
  (`orderless_of_fields`).
-/
import ScatterGather.Proofs.Json.ReadBack
import ScatterGather.Proofs.Sequence
import ScatterGather.Layout.Json
import Mathlib.Data.List.Perm.Basic
import Mathlib.Order.Nat

namespace ScatterGather.Json

/-- A value with the members of its objects in another order. -/
inductive Reordered : Json → Json → Prop where
  | refl (json : Json) : Reordered json json
  | trans {json middle other : Json} (one : Reordered json middle) (two : Reordered middle other) :
    Reordered json other
  /-- The members of an object are moved. -/
  | moved {members others : List (Option String × Json)} (same : members.Perm others) :
    Reordered (object members) (object others)
  /-- The value of one member is reordered. -/
  | member (before after : List (Option String × Json)) (name : Option String) {value other : Json}
    (inside : Reordered value other) :
    Reordered (object (before ++ (name, value) :: after)) (object (before ++ (name, other) :: after))
  /-- One item of an array is reordered; the items themselves keep their order. -/
  | item (before after : List Json) {value other : Json} (inside : Reordered value other) :
    Reordered (array (before ++ value :: after)) (array (before ++ other :: after))

/-! ### Parts -/

theorem areWholeItems_iff {items : List Json} :
    areWholeItems items = true ↔ ∀ item ∈ items, item.isWhole = true := by
  induction items with
  | nil => simp [areWholeItems]
  | cons item items ih => rw [areWholeItems, Bool.and_eq_true, ih, List.forall_mem_cons]

theorem areWholeMembers_iff {members : List (Option String × Json)} :
    areWholeMembers members = true ↔ ∀ member ∈ members, member.2.isWhole = true := by
  induction members with
  | nil => simp [areWholeMembers]
  | cons member members ih => rw [areWholeMembers, Bool.and_eq_true, ih, List.forall_mem_cons]

theorem areSoundItems_iff {items : List Json} :
    areSoundItems items = true ↔ ∀ item ∈ items, item.isSound = true := by
  induction items with
  | nil => simp [areSoundItems]
  | cons item items ih => rw [areSoundItems, Bool.and_eq_true, ih, List.forall_mem_cons]

theorem areSoundMembers_iff {members : List (Option String × Json)} :
    areSoundMembers members = true ↔
      ∀ member ∈ members, member.1.isSome = true ∧ member.2.isSound = true := by
  induction members with
  | nil => simp [areSoundMembers]
  | cons member members ih =>
    rw [areSoundMembers, Bool.and_eq_true, Bool.and_eq_true, ih, List.forall_mem_cons]

theorem depthOfItems_le {items : List Json} {bound : Nat} :
    depthOfItems items ≤ bound ↔ ∀ item ∈ items, item.depth ≤ bound := by
  induction items with
  | nil => simp [depthOfItems]
  | cons item items ih => rw [depthOfItems, Nat.max_le, ih, List.forall_mem_cons]

theorem depthOfMembers_le {members : List (Option String × Json)} {bound : Nat} :
    depthOfMembers members ≤ bound ↔ ∀ member ∈ members, member.2.depth ≤ bound := by
  induction members with
  | nil => simp [depthOfMembers]
  | cons member members ih => rw [depthOfMembers, Nat.max_le, ih, List.forall_mem_cons]

variable {json other : Json}

/-- **What is said of a value by its parts** is said of it in any order; what is said may count how deep the
parts lie. -/
theorem Reordered.iff_of_parts (holds : Nat → Json → Prop) (opens : Nat → Prop)
    (names : Option String → Prop)
    (objects : ∀ level members, holds level (object members) ↔
      opens level ∧ ∀ member ∈ members, names member.1 ∧ holds (level - 1) member.2)
    (arrays : ∀ level items, holds level (array items) ↔
      opens level ∧ ∀ item ∈ items, holds (level - 1) item)
    (same : Reordered json other) (level : Nat) : holds level json ↔ holds level other := by
  induction same generalizing level with
  | refl json => rfl
  | trans _ _ one two => exact (one level).trans (two level)
  | moved same =>
    rw [objects, objects]
    exact and_congr_right fun _ => forall_congr' fun _ => imp_congr_left same.mem_iff
  | member before after name _ ih =>
    rw [objects, objects]
    simp only [List.forall_mem_append, List.forall_mem_cons, ih]
  | item before after _ ih =>
    rw [arrays, arrays]
    simp only [List.forall_mem_append, List.forall_mem_cons, ih]

theorem Reordered.isWhole_eq (same : Reordered json other) : json.isWhole = other.isWhole := by
  refine Bool.eq_iff_iff.mpr (same.iff_of_parts (fun _ json => json.isWhole = true) (fun _ => True)
    (fun _ => True) (fun _ members => ?_) (fun _ items => ?_) 0)
  · simp only [isWhole, areWholeMembers_iff, true_and]
  · simp only [isWhole, areWholeItems_iff, true_and]

theorem Reordered.isSound_eq (same : Reordered json other) : json.isSound = other.isSound := by
  refine Bool.eq_iff_iff.mpr (same.iff_of_parts (fun _ json => json.isSound = true) (fun _ => True)
    (fun name => name.isSome = true) (fun _ members => ?_) (fun _ items => ?_) 0)
  · simp only [isSound, areSoundMembers_iff, true_and]
  · simp only [isSound, areSoundItems_iff, true_and]

theorem Reordered.depth_eq (same : Reordered json other) : json.depth = other.depth := by
  refine eq_of_forall_ge_iff (same.iff_of_parts (fun level json => json.depth ≤ level) (0 < ·)
    (fun _ => True) (fun level members => ?_) (fun level items => ?_))
  · simp only [depth, true_and, ← depthOfMembers_le]
    omega
  · simp only [depth, ← depthOfItems_le]
    omega

theorem Reordered.null_iff (same : Reordered json other) : json = null ↔ other = null := by
  induction same with
  | refl json => rfl
  | trans _ _ one two => exact one.trans two
  | moved _ => exact ⟨nofun, nofun⟩
  | member _ _ _ _ _ => exact ⟨nofun, nofun⟩
  | item _ _ _ _ => exact ⟨nofun, nofun⟩

/-! ### Readers -/

/-- A reader gives the same for a value in any order. -/
def Orderless {α : Type} (read : Json → α) : Prop :=
  ∀ ⦃json other : Json⦄, Reordered json other → read json = read other

/-- Members of the same names whose values are reordered. -/
def MemberAlike (member other : Option String × Json) : Prop :=
  member.1 = other.1 ∧ Reordered member.2 other.2

theorem forall₂_insert {α : Type} {Alike : α → α → Prop} (same : ∀ value, Alike value value)
    (before after : List α) {value other : α} (inside : Alike value other) :
    List.Forall₂ Alike (before ++ value :: after) (before ++ other :: after) :=
  List.rel_append (List.forall₂_same.mpr fun member _ => same member)
    (.cons inside (List.forall₂_same.mpr fun member _ => same member))

/-- **A reader is orderless** if it takes no note of the order of the members of an object, and gives the
same for members and for items that are reordered one by one. -/
theorem orderless_of {α : Type} {read : Json → α}
    (moved : ∀ {members others}, members.Perm others → read (object members) = read (object others))
    (objects : ∀ {members others}, List.Forall₂ MemberAlike members others →
      read (object members) = read (object others))
    (arrays : ∀ {items others}, List.Forall₂ Reordered items others →
      read (array items) = read (array others)) : Orderless read := by
  intro json other same
  induction same with
  | refl json => rfl
  | trans _ _ one two => exact one.trans two
  | moved same => exact moved same
  | member before after name inside _ =>
    exact objects
      (forall₂_insert (fun member => ⟨rfl, .refl member.2⟩) before after ⟨rfl, inside⟩)
  | item before after inside _ => exact arrays (forall₂_insert .refl before after inside)

theorem mapM_alike {α : Type} {item? : Json → Option α} (orderless : Orderless item?)
    {items others : List Json} (alike : List.Forall₂ Reordered items others) :
    items.mapM item? = others.mapM item? := by
  induction alike with
  | nil => rfl
  | cons here _ ih => rw [List.mapM_cons, List.mapM_cons, orderless here, ih]

theorem orderless_list? {α : Type} {item? : Json → Option α} (orderless : Orderless item?) :
    Orderless (list? item?) :=
  orderless_of (fun _ => rfl) (fun _ => rfl) (mapM_alike orderless)

theorem orderless_string? : Orderless string? :=
  orderless_of (fun _ => rfl) (fun _ => rfl) (fun _ => rfl)

theorem orderless_shard? : Orderless shard? :=
  orderless_of (fun _ => rfl) (fun _ => rfl) (fun _ => rfl)

theorem orderless_int64? : Orderless int64? :=
  orderless_of (fun _ => rfl) (fun _ => rfl) (fun _ => rfl)

theorem orDefault_alike {α : Type} {read : Json → Option α} (orderless : Orderless read)
    (fallback : α) {field other : Option Json} (alike : Option.Rel Reordered field other) :
    orDefault read fallback field = orDefault read fallback other := by
  cases alike with
  | none => rfl
  | some here => exact orderless here

/-! ### Fields -/

section Fields

variable {members others : List (Option String × Json)}

theorem field?_of_perm (same : members.Perm others) (name : String) :
    field? members name = field? others name := by
  have moved : (valuesOf name members).Perm (valuesOf name others) :=
    (same.filter _).map _
  unfold field?
  generalize valuesOf name members = values at moved ⊢
  generalize valuesOf name others = more at moved ⊢
  match values, moved with
  | [], moved => rw [List.nil_perm.mp moved]
  | [value], moved => rw [List.singleton_perm.mp moved]
  | first :: second :: rest, moved =>
    match more, moved.length_eq with
    | _ :: _ :: _, _ => rfl

theorem valuesOf_alike (alike : List.Forall₂ MemberAlike members others) (name : String) :
    List.Forall₂ Reordered (valuesOf name members) (valuesOf name others) := by
  have meant {member other : Option String × Json} (same : MemberAlike member other) :
      (member.1 == some name) = true ↔ (other.1 == some name) = true := by
    rw [same.1]
  exact List.rel_map (fun _ _ same => same.2) (List.rel_filter (fun _ _ same => meant same) alike)

theorem field?_alike (alike : List.Forall₂ MemberAlike members others) (name : String) :
    Option.Rel (Option.Rel Reordered) (field? members name) (field? others name) := by
  have values := valuesOf_alike alike name
  unfold field?
  generalize valuesOf name members = found at values ⊢
  generalize valuesOf name others = foundToo at values ⊢
  rcases values with _ | ⟨here, _ | ⟨_, _⟩⟩
  · exact .some .none
  · exact .some (.some here)
  · exact .none

theorem all_named_alike (alike : List.Forall₂ MemberAlike members others) :
    (members.all fun member => member.1.isSome) = others.all fun member => member.1.isSome := by
  induction alike with
  | nil => rfl
  | cons here _ ih => rw [List.all_cons, List.all_cons, here.1, ih]

/-- **What is read from the fields of a record is orderless**, if it is the same for fields that are
reordered. -/
theorem orderless_of_fields {α : Type} {read : Json → α} (names : List String)
    (same : ∀ {json other fields others}, json.fields? names = fields → other.fields? names = others →
      Option.Rel (List.Forall₂ (Option.Rel Reordered)) fields others → read json = read other) :
    Orderless read := by
  have unchanged : ∀ fields : List (Option Json), List.Forall₂ (Option.Rel Reordered) fields fields :=
    fun fields => List.forall₂_same.mpr fun field _ => rel_refl .refl field
  refine orderless_of (fun moved => same rfl rfl ?_) (fun {members others} alike => same rfl rfl ?_)
    (fun {items others} alike => same rfl rfl ?_)
  · rw [fields?, fields?, moved.all_eq, funext (field?_of_perm moved)]
    exact rel_refl unchanged _
  · rw [fields?, fields?, all_named_alike alike]
    split
    · exact rel_mapM (field?_alike alike) names
    · exact .none
  · -- The fields that are left off at the end are the same.
    rw [fields?, fields?, alike.length_eq]
    split
    · exact .some (List.rel_append (List.rel_map (fun _ _ here => .some here) alike) (unchanged _))
    · exact .none

end Fields

end ScatterGather.Json
