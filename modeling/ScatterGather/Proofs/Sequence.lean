/-
**Computations that may fail, one after the other.**

* `bind_eq_ok`, `map_eq_ok`, `map_eq_error`: what a computation of two parts gives;
* `rel_bind`, `rel_map`, `rel_getD`, `rel_mapM`: options that are related, and what is made of them;
* `mapM_eq_ok`, `mapM_eq_some`, `exists_mapM_eq_ok` — a computation over a list gives a list exactly if it
  gives **something for every member**;
* `mapM_eq_error`: and fails as it does for **the first member for which it fails**;
* `numbered_split`: the place of a member among members that are numbered;
* `exists_of_mem_results`, `exists_of_mem_members`: from a result back to its member, and on from a member;
* `forall₂_through`, `forall₂_filterMap`: one computation behind another, and one that finds all;
* `filterMap_concat`: what is found in a list that has grown by one.
-/
import Mathlib.Data.List.Forall2

namespace ScatterGather

variable {Cause α β : Type}

theorem ok_bind (value : α) (next : α → Except Cause β) : .ok value >>= next = next value := rfl

/-- A computation and one that goes on from its result give what the latter gives. -/
theorem bind_eq_ok {first : Except Cause α} {next : α → Except Cause β} {result : β} :
    first >>= next = .ok result ↔ ∃ value, first = .ok value ∧ next value = .ok result := by
  cases first with
  | ok value =>
    exact ⟨fun given => ⟨value, rfl, given⟩, fun ⟨_, same, given⟩ => Except.ok.inj same ▸ given⟩
  | error cause => exact ⟨nofun, nofun⟩

theorem map_eq_ok {first : Except Cause α} {next : α → β} {result : β} :
    first.map next = .ok result ↔ ∃ value, first = .ok value ∧ next value = result := by
  cases first with
  | ok value =>
    exact ⟨fun given => ⟨value, rfl, Except.ok.inj given⟩,
      fun ⟨_, same, given⟩ => Except.ok.inj same ▸ congrArg Except.ok given⟩
  | error cause => exact ⟨nofun, nofun⟩

theorem map_eq_error {first : Except Cause α} {next : α → β} {cause : Cause} :
    first.map next = .error cause ↔ first = .error cause := by
  cases first with
  | ok value => exact ⟨nofun, nofun⟩
  | error other => exact ⟨fun given => congrArg _ (Except.error.inj given), fun same => same ▸ rfl⟩

/-- A computation that gives something gives it whatever else would stand for it. -/
theorem eq_ok_of_isOk {computed : Except Cause α} (fine : computed.isOk = true) (other : α) :
    computed = .ok (computed.toOption.getD other) := by
  cases computed with
  | ok value => rfl
  | error cause => cases fine

theorem eq_ok_of_toOption {computed : Except Cause α} {value : α}
    (given : computed.toOption = some value) : computed = .ok value := by
  cases computed with
  | ok found => exact congrArg Except.ok (Option.some.inj given)
  | error cause => cases given

/-- An option that holds something holds it whatever else would stand for it. -/
theorem eq_some_of_isSome {value : Option α} (holds : value.isSome = true) (other : α) :
    value = some (value.getD other) :=
  (Option.getD_of_ne_none (Option.isSome_iff_ne_none.mp holds) other).symm

/-- Options that are related are related after related steps. -/
theorem rel_bind {α' β' : Type} {First : α → α' → Prop} {Second : β → β' → Prop} {value : Option α}
    {other : Option α'} (related : Option.Rel First value other) {next : α → Option β}
    {nextOther : α' → Option β'}
    (step : ∀ {x y}, First x y → Option.Rel Second (next x) (nextOther y)) :
    Option.Rel Second (value.bind next) (other.bind nextOther) := by
  cases related with
  | none => exact .none
  | some here => exact step here

theorem rel_map {α' β' : Type} {First : α → α' → Prop} {Second : β → β' → Prop} {value : Option α}
    {other : Option α'} (related : Option.Rel First value other) {next : α → β}
    {nextOther : α' → β'} (step : ∀ {x y}, First x y → Second (next x) (nextOther y)) :
    Option.Rel Second (value.map next) (other.map nextOther) := by
  cases related with
  | none => exact .none
  | some here => exact .some (step here)

theorem rel_getD {α' : Type} {Related : α → α' → Prop} {value : Option α} {other : Option α'}
    (related : Option.Rel Related value other) {default : α} {defaultOther : α'}
    (defaults : Related default defaultOther) :
    Related (value.getD default) (other.getD defaultOther) := by
  cases related with
  | none => exact defaults
  | some here => exact here

/-- An option is related to itself where all that it may hold is. -/
theorem rel_refl {Related : α → α → Prop} (each : ∀ value, Related value value) (value : Option α) :
    Option.Rel Related value value := by
  cases value with
  | none => exact .none
  | some value => exact .some (each value)

/-- Options over a list are related where each of them is. -/
theorem rel_mapM {β' : Type} {Related : β → β' → Prop} {step : α → Option β} {other : α → Option β'}
    (each : ∀ member, Option.Rel Related (step member) (other member)) (members : List α) :
    Option.Rel (List.Forall₂ Related) (members.mapM step) (members.mapM other) := by
  induction members with
  | nil => exact .some .nil
  | cons member rest ih =>
    rw [List.mapM_cons, List.mapM_cons]
    exact rel_bind (each member) fun here => rel_bind ih fun there => .some (.cons here there)

/-- **A computation over a list** gives, for every member, what the computation of it gives. -/
theorem mapM_eq_ok {step : α → Except Cause β} {members : List α} {results : List β} :
    members.mapM step = .ok results ↔
      List.Forall₂ (fun member result => step member = .ok result) members results := by
  induction members generalizing results with
  | nil =>
    rw [List.mapM_nil, List.forall₂_nil_left_iff]
    exact ⟨fun given => (Except.ok.inj given).symm, fun none => none ▸ rfl⟩
  | cons member rest ih =>
    simp only [List.mapM_cons, bind_eq_ok, List.forall₂_cons_left_iff, ih]
    constructor
    · rintro ⟨result, here, others, there, same⟩
      exact ⟨result, others, here, there, (Except.ok.inj same).symm⟩
    · rintro ⟨result, others, here, there, rfl⟩
      exact ⟨result, here, others, there, rfl⟩

/-- An option over a list holds, for every member, what the option of it holds. -/
theorem mapM_eq_some {step : α → Option β} {members : List α} {results : List β}
    (whole : members.mapM step = some results) :
    List.Forall₂ (fun member result => step member = some result) members results := by
  induction members generalizing results with
  | nil =>
    rw [List.mapM_nil] at whole
    obtain rfl := Option.some.inj whole
    exact .nil
  | cons member rest ih =>
    rw [List.mapM_cons] at whole
    obtain ⟨result, here, whole⟩ := Option.bind_eq_some_iff.mp whole
    obtain ⟨others, there, same⟩ := Option.bind_eq_some_iff.mp whole
    obtain rfl := Option.some.inj same
    exact .cons here (ih there)

/-- A computation over a list succeeds if it does for every member. -/
theorem exists_mapM_eq_ok {step : α → Except Cause β} {members : List α} :
    (∃ results, members.mapM step = .ok results) ↔
      ∀ member ∈ members, ∃ result, step member = .ok result := by
  simp only [mapM_eq_ok]
  induction members with
  | nil => simp
  | cons member rest ih =>
    simp only [List.forall₂_cons_left_iff, List.forall_mem_cons, ← ih]
    constructor
    · rintro ⟨-, result, others, here, there, rfl⟩
      exact ⟨⟨result, here⟩, others, there⟩
    · rintro ⟨⟨result, here⟩, others, there⟩
      exact ⟨_, result, others, here, there, rfl⟩

/-- **A computation over a list fails** as it does for the first member for which it fails. -/
theorem mapM_eq_error {step : α → Except Cause β} {members : List α} {cause : Cause}
    (failed : members.mapM step = .error cause) :
    ∃ before member after, members = before ++ member :: after ∧
      (∀ earlier ∈ before, ∃ result, step earlier = .ok result) ∧ step member = .error cause := by
  induction members with
  | nil => cases failed
  | cons member rest ih =>
    rw [List.mapM_cons] at failed
    cases here : step member with
    | error other =>
      rw [here] at failed
      obtain rfl : other = cause := Except.error.inj failed
      exact ⟨[], member, rest, rfl, nofun, here⟩
    | ok result =>
      rw [here] at failed
      cases there : rest.mapM step with
      | ok results =>
        rw [there] at failed
        cases failed
      | error other =>
        rw [there] at failed
        obtain rfl : other = cause := Except.error.inj failed
        obtain ⟨before, first, after, rfl, fine, fails⟩ := ih there
        exact ⟨member :: before, first, after, rfl, List.forall_mem_cons.mpr ⟨⟨result, here⟩, fine⟩, fails⟩

/-- Members that are numbered from zero stand where their numbers say. -/
theorem numbered_split {members : List α} {before after : List (Nat × α)} {numbered : Nat × α}
    (split : (List.range members.length).zip members = before ++ numbered :: after) :
    members = before.map Prod.snd ++ numbered.2 :: after.map Prod.snd ∧ numbered.1 = before.length := by
  have place : ((List.range members.length).zip members)[before.length]? = some numbered := by
    rw [split, List.getElem?_append_right (Nat.le_refl _), Nat.sub_self]
    rfl
  constructor
  · have second := congrArg (List.map Prod.snd) split
    rw [List.map_snd_zip (Nat.le_of_eq List.length_range.symm)] at second
    rw [second, List.map_append, List.map_cons]
  · obtain ⟨number, -⟩ := List.getElem?_zip_eq_some.mp place
    obtain ⟨fits, same⟩ := List.getElem?_eq_some_iff.mp number
    rwa [List.getElem_range, eq_comm] at same

/-- What a computation over a list gives is given for one of its members. -/
theorem exists_of_mem_results {Given : α → β → Prop} {members : List α} {results : List β}
    (each : List.Forall₂ Given members results) {result : β} (inside : result ∈ results) :
    ∃ member ∈ members, Given member result := by
  induction each with
  | nil => cases inside
  | cons here _ ih =>
    rcases List.mem_cons.mp inside with rfl | inside
    · exact ⟨_, List.mem_cons_self, here⟩
    · obtain ⟨member, isMember, given⟩ := ih inside
      exact ⟨member, List.mem_cons_of_mem _ isMember, given⟩

theorem exists_of_mem_members {Given : α → β → Prop} {members : List α} {results : List β}
    (each : List.Forall₂ Given members results) {member : α} (inside : member ∈ members) :
    ∃ result ∈ results, Given member result := by
  obtain ⟨result, isResult, given⟩ := exists_of_mem_results each.flip inside
  exact ⟨result, isResult, given⟩

theorem forall₂_through {γ : Type} {First : α → β → Prop} {Second : β → γ → Prop} {members : List α}
    {between : List β} {results : List γ} (firsts : List.Forall₂ First members between)
    (seconds : List.Forall₂ Second between results) :
    List.Forall₂ (fun member result => ∃ value, First member value ∧ Second value result)
      members results := by
  induction firsts generalizing results with
  | nil =>
    cases seconds
    exact List.Forall₂.nil
  | cons here _ ih =>
    cases seconds with
    | cons there rest => exact List.Forall₂.cons ⟨_, here, there⟩ (ih rest)

theorem forall₂_filterMap {function : α → Option β} {members : List α}
    (found : ∀ member ∈ members, (function member).isSome = true) :
    List.Forall₂ (fun member result => function member = some result) members
      (members.filterMap function) := by
  induction members with
  | nil => exact List.Forall₂.nil
  | cons member rest ih =>
    obtain ⟨here, others⟩ := List.forall_mem_cons.mp found
    obtain ⟨result, given⟩ := Option.isSome_iff_exists.mp here
    rw [List.filterMap_cons_some given]
    exact List.Forall₂.cons given (ih others)

theorem filterMap_concat (function : α → Option β) (before : List α) (last : α) :
    (before ++ [last]).filterMap function = before.filterMap function ++ (function last).toList := by
  rw [List.filterMap_append]
  cases found : function last with
  | none => rw [List.filterMap_cons_none found]; rfl
  | some value => rw [List.filterMap_cons_some found]; rfl

end ScatterGather
