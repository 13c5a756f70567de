/-
**Layouts survive their JSON form.**

* `Json.fields?_record`, `Json.list?_map`: records of distinct names and lists are read as they are written;
* `Spread.ofJson?_toJson`, `RuleLayout.ofJson?_toJson`, `TableLayout.ofJson?_toJson`,
  `Layout.ofJson?_toJson`: so are the parts of a layout, and the whole of it;
* `Spread.ofJson?_eq`: a spread is read from the fields of its kind and of its bounds, wherever they stand;
* `Spread.orderless`, `RuleLayout.orderless`, `TableLayout.orderless`, `Layout.orderless`: **any** value is
  read alike in any order of the members of its objects;
* `layouts_kept` — a layout is read back from the text of its form, and from **every text that spells the
  form in another order**.
-/
import ScatterGather.Proofs.Json.Reordered

namespace ScatterGather

/-! ### Forms -/

namespace Json

theorem list?_map {α : Type} {item? : Json → Option α} {form : α → Json}
    (each : ∀ value, item? (form value) = some value) (values : List α) :
    list? item? (array (values.map form)) = some values := by
  show (values.map form).mapM item? = _
  induction values with
  | nil => rfl
  | cons value values ih =>
    rw [List.map_cons, List.mapM_cons, each, ih]
    rfl

theorem shard?_toNat (shard : ShardId) : shard? (.integer shard.toNat) = some shard := by
  have fits : 0 ≤ (shard.toNat : Int) ∧ (shard.toNat : Int) < 0x100000000 :=
    ⟨Int.natCast_nonneg _, Int.ofNat_lt.mpr shard.toNat_lt⟩
  rw [shard?, if_pos fits, Int.toNat_natCast, UInt32.ofNat_toNat]

theorem int64?_toInt (value : Int64) : int64? (.integer value.toInt) = some value := by
  rw [int64?, if_pos ⟨value.le_toInt, value.toInt_lt⟩, Int64.ofInt_toInt]

theorem valuesOf_record (members : List (String × Json)) (name : String) :
    valuesOf name (members.map fun (name, value) => (some name, value)) =
      (members.filter fun member => member.1 == name).map Prod.snd := by
  rw [valuesOf, List.filter_map, List.map_map]
  rfl

/-- A member of a distinct name is the only one of its name. -/
theorem filter_name {members : List (String × Json)} (distinct : (members.map Prod.fst).Nodup)
    {member : String × Json} (inside : member ∈ members) :
    (members.filter fun other => other.1 == member.1) = [member] := by
  induction members with
  | nil => cases inside
  | cons first members ih =>
    obtain ⟨fresh, distinct⟩ := List.nodup_cons.mp distinct
    rcases List.mem_cons.mp inside with rfl | inside
    · rw [List.filter_cons, if_pos (beq_self_eq_true _), List.filter_eq_nil_iff.mpr]
      intro other later same
      exact fresh (beq_iff_eq.mp same ▸ List.mem_map_of_mem later)
    · have notFirst : ¬(first.1 == member.1) = true := fun same =>
        fresh (beq_iff_eq.mp same ▸ List.mem_map_of_mem inside)
      rw [List.filter_cons, if_neg notFirst, ih distinct inside]

/-- **The fields of a record** are read as they are written, where their names are distinct. -/
theorem fields?_record {members : List (String × Json)} (distinct : (members.map Prod.fst).Nodup) :
    (record members).fields? (members.map Prod.fst) =
      some (members.map fun member => some member.2) := by
  have named : ((members.map fun (name, value) => (some name, value)).all fun member => member.1.isSome) =
      true := by
    simp
  have each : ∀ {listed : List (String × Json)}, listed ⊆ members →
      (listed.map Prod.fst).mapM (field? (members.map fun (name, value) => (some name, value))) =
        some (listed.map fun member => some member.2) := by
    intro listed inside
    induction listed with
    | nil => rfl
    | cons member listed ih =>
      obtain ⟨here, later⟩ := List.cons_subset.mp inside
      rw [List.map_cons, List.mapM_cons, field?, valuesOf_record, filter_name distinct here, ih later]
      rfl
  rw [record, fields?, if_pos named]
  exact each (List.Subset.refl members)

theorem isWhole_ofString (text : String) : (ofString text).isWhole = true := rfl

theorem isWhole_record {members : List (String × Json)}
    (each : ∀ member ∈ members, member.2.isWhole = true) : (record members).isWhole = true :=
  areWholeMembers_iff.mpr (List.forall_mem_map.mpr each)

theorem isWhole_map {α : Type} {form : α → Json} (each : ∀ value, (form value).isWhole = true)
    (values : List α) : (array (values.map form)).isWhole = true :=
  areWholeItems_iff.mpr (List.forall_mem_map.mpr fun value _ => each value)

end Json

open Json

theorem ShardId.list?_listToJson (shards : List ShardId) :
    (listToJson shards).list? shard? = some shards :=
  list?_map shard?_toNat shards

theorem TableKind.ofJson?_toJson (kind : TableKind) : ofJson? kind.toJson = some kind := by
  cases kind <;> rfl

/-- The spread of a kind, with the field of its bounds. -/
def Spread.ofKind? (bounds : Option (Option Json)) (kind : String) : Option Spread :=
  if kind = "hash" then some .hash
  else if kind = "range" then
    match bounds with
    | some (some bounds) => (bounds.list? int64?).map range
    | _ => none
  else none

/-- The spread of a value that is sound and not too deep. -/
def Spread.ofParts? : Json → Option Spread
  | .object members =>
    match field? members "kind" with
    | some (some kind) => kind.string?.bind (ofKind? (field? members "bounds"))
    | _ => none
  | .array [kind] => kind.string?.bind fun kind => if kind = "hash" then some .hash else none
  | .array [kind, bounds] =>
    kind.string?.bind fun kind =>
      if kind = "range" then (bounds.list? int64?).map range else none
  | _ => none

/-- **A spread is read from the field of its kind**, wherever it stands, and from that of its bounds. -/
theorem Spread.ofJson?_eq (json : Json) : ofJson? json =
    if !json.isSound || maxDepth < json.depth then none else ofParts? json := by
  unfold ofJson?
  congr 1
  cases json with
  | object members =>
    dsimp only [ofParts?, field?]
    generalize valuesOf "kind" members = kinds
    generalize valuesOf "bounds" members = bounds
    -- Only one kind that is a text with a value leads on to the bounds.
    rcases kinds with _ | ⟨_ | _ | _ | _ | (_ | name) | _ | _, _ | ⟨_, _⟩⟩ <;> try rfl
    rcases bounds with _ | ⟨_, _ | ⟨_, _⟩⟩ <;> rfl
  | array items =>
    dsimp only [ofParts?]
    rcases items with _ | ⟨_ | _ | _ | _ | (_ | name) | _ | _, _ | ⟨_, _ | ⟨_, _⟩⟩⟩ <;> rfl
  | _ => rfl

theorem Spread.isSound_toJson (spread : Spread) : spread.toJson.isSound = true := by
  cases spread with
  | hash => rfl
  | range bounds =>
    have sound : areSoundItems (bounds.map fun bound => .integer bound.toInt) = true := by
      simp [areSoundItems_iff, isSound]
    simp [toJson, record, ofString, isSound, areSoundMembers, sound]

theorem Spread.depth_toJson (spread : Spread) : spread.toJson.depth ≤ 2 := by
  cases spread with
  | hash => decide
  | range bounds =>
    have flat : depthOfItems (bounds.map fun bound => .integer bound.toInt) ≤ 0 :=
      depthOfItems_le.mpr (by simp [depth])
    simp [toJson, record, ofString, depth, depthOfMembers]
    omega

theorem Spread.ofJson?_toJson (spread : Spread) : ofJson? spread.toJson = some spread := by
  have shallow : ¬maxDepth < spread.toJson.depth :=
    Nat.not_lt.mpr (Nat.le_trans spread.depth_toJson (by decide))
  rw [ofJson?_eq, isSound_toJson, decide_eq_false shallow]
  show ofParts? spread.toJson = _
  cases spread with
  | hash => rfl
  | range bounds =>
    show (list? int64? (.array (bounds.map fun bound => .integer bound.toInt))).map range = _
    rw [list?_map int64?_toInt]
    rfl

theorem RuleLayout.ofJson?_toJson (rule : RuleLayout) : ofJson? rule.toJson = some rule := by
  have fields : rule.toJson.fields? ["column", "function"] = _ :=
    fields?_record (by simp)
  rw [ofJson?, fields]
  show (some rule.column).bind _ = _
  rw [Option.bind_some, Spread.ofJson?_toJson]
  rfl

theorem RuleLayout.ofNullable?_toJson? (rule : Option RuleLayout) :
    ofNullable? (toJson? rule) = some rule := by
  cases rule with
  | none => rfl
  | some rule =>
    show (ofJson? rule.toJson).map some = _
    rw [ofJson?_toJson]
    rfl

theorem TableLayout.ofJson?_toJson (table : TableLayout) : ofJson? table.toJson = some table := by
  have fields : table.toJson.fields? ["name", "type", "shards", "rule"] = _ :=
    fields?_record (by simp)
  rw [ofJson?, fields]
  simp only [List.map, orDefault, ofString, string?, TableKind.ofJson?_toJson, ShardId.list?_listToJson,
    RuleLayout.ofNullable?_toJson?]
  rfl

theorem Layout.ofJson?_toJson (layout : Layout) : ofJson? layout.toJson = some layout := by
  have fields : layout.toJson.fields? ["name", "shards", "tables"] = _ :=
    fields?_record (by simp)
  rw [ofJson?, fields]
  simp only [List.map_cons, List.map_nil, orDefault, ofString, string?, ShardId.list?_listToJson,
    list?_map TableLayout.ofJson?_toJson]
  rfl

/-! ### Orders -/

/-- An object names a kind of table only by a single member that has no value. -/
theorem TableKind.ofJson?_congr {members others : List (Option String × Json)}
    (same : ∀ name, members = [(some name, .null)] ↔ others = [(some name, .null)]) :
    ofJson? (.object members) = ofJson? (.object others) := by
  have unnamed {members : List (Option String × Json)}
      (other : ∀ name, members ≠ [(some name, .null)]) : ofJson? (.object members) = none := by
    unfold ofJson?
    split
    · next same => cases same
    · next name same => exact absurd (Json.object.inj same) (other name)
    · rfl
  by_cases named : ∃ name, members = [(some name, .null)]
  · obtain ⟨name, single⟩ := named
    rw [single, (same name).mp single]
  · rw [unnamed fun name single => named ⟨name, single⟩,
      unnamed fun name single => named ⟨name, (same name).mpr single⟩]

theorem TableKind.orderless : Orderless ofJson? := by
  refine orderless_of (fun moved => ofJson?_congr fun name => ⟨?_, ?_⟩)
    (fun alike => ofJson?_congr fun name => ⟨?_, ?_⟩) (fun _ => rfl)
  · rintro rfl
    exact (List.singleton_perm.mp moved).symm
  · rintro rfl
    exact List.perm_singleton.mp moved
  · rintro rfl
    rcases alike with _ | ⟨⟨named, here⟩, _ | _⟩
    exact congrArg (fun member => [member]) (Prod.ext named.symm (here.null_iff.mp rfl))
  · rintro rfl
    rcases alike with _ | ⟨⟨named, here⟩, _ | _⟩
    exact congrArg (fun member => [member]) (Prod.ext named (here.null_iff.mpr rfl))

theorem Spread.ofKind?_alike {bounds others : Option (Option Json)}
    (alike : Option.Rel (Option.Rel Reordered) bounds others) (kind : String) :
    ofKind? bounds kind = ofKind? others kind := by
  unfold ofKind?
  rcases alike with ⟨⟨here⟩ | _⟩ | _
  · dsimp only
    rw [orderless_list? orderless_int64? here]
  · rfl
  · rfl

/-- How rows are spread is read alike in any order, the kind before its bounds or behind them. -/
theorem Spread.orderless : Orderless ofJson? := by
  have parts : Orderless ofParts? := by
    refine orderless_of (fun moved => ?_) (fun {members others} alike => ?_) (fun alike => ?_)
    · rw [ofParts?, ofParts?, field?_of_perm moved, field?_of_perm moved]
    · have bounds := funext (ofKind?_alike (field?_alike alike "bounds"))
      rw [ofParts?, ofParts?, bounds]
      have kinds := field?_alike alike "kind"
      generalize field? members "kind" = kind at kinds ⊢
      generalize field? others "kind" = kindToo at kinds ⊢
      rcases kinds with ⟨⟨here⟩ | _⟩ | _
      · dsimp only
        rw [orderless_string? here]
      · rfl
      · rfl
    · rcases alike with _ | ⟨kind, _ | ⟨bounds, _ | ⟨_, _⟩⟩⟩
      · rfl
      · rw [ofParts?, ofParts?, orderless_string? kind]
      · rw [ofParts?, ofParts?, orderless_string? kind, orderless_list? orderless_int64? bounds]
      · rfl
  intro json other same
  rw [ofJson?_eq, ofJson?_eq, same.isSound_eq, same.depth_eq, parts same]

theorem RuleLayout.orderless : Orderless ofJson? := by
  refine orderless_of_fields ["column", "function"] fun here there alike => ?_
  rw [ofJson?, ofJson?, here, there]
  -- A rule is read only where both of its fields are there.
  rcases alike with ⟨_ | ⟨⟨column⟩ | _, _ | ⟨⟨function⟩ | _, _ | ⟨_, _⟩⟩⟩⟩ | _ <;> try rfl
  dsimp only
  rw [orderless_string? column, Spread.orderless function]

theorem RuleLayout.ofNullable?_orderless : Orderless ofNullable? := by
  intro json other same
  by_cases missing : json = .null
  · rw [missing, same.null_iff.mp missing]
  · rw [ofNullable?, ofNullable?, RuleLayout.orderless same]
    · exact fun missing' => missing (same.null_iff.mpr missing')
    · exact missing

theorem TableLayout.orderless : Orderless ofJson? := by
  refine orderless_of_fields ["name", "type", "shards", "rule"] fun here there alike => ?_
  rw [ofJson?, ofJson?, here, there]
  rcases alike with ⟨_ | ⟨⟨name⟩ | _, _ | ⟨kind, _ | ⟨⟨shards⟩ | _, _ | ⟨rule, _ | ⟨_, _⟩⟩⟩⟩⟩⟩ | _ <;> try rfl
  dsimp only
  rw [orderless_string? name, orDefault_alike TableKind.orderless _ kind,
    orderless_list? orderless_shard? shards, orDefault_alike RuleLayout.ofNullable?_orderless _ rule]

/-- **A layout is read alike in any order** of the members of objects, and refused in any if it is in one. -/
theorem Layout.orderless : Orderless ofJson? := by
  refine orderless_of_fields ["name", "shards", "tables"] fun here there alike => ?_
  rw [ofJson?, ofJson?, here, there]
  rcases alike with ⟨_ | ⟨⟨name⟩ | _, _ | ⟨⟨shards⟩ | _, _ | ⟨tables, _ | ⟨_, _⟩⟩⟩⟩⟩ | _ <;> try rfl
  dsimp only
  rw [orderless_string? name, orderless_list? orderless_shard? shards,
    orDefault_alike (orderless_list? TableLayout.orderless) _ tables]

/-! ### Whole numbers -/

theorem ShardId.isWhole_listToJson (shards : List ShardId) : (listToJson shards).isWhole = true := by
  refine isWhole_map (fun shard => ?_) shards
  have fits := shard.toNat_lt
  simp only [isWhole, isWord, Bool.and_eq_true, decide_eq_true_eq]
  omega

theorem Spread.isWhole_toJson (spread : Spread) : spread.toJson.isWhole = true := by
  cases spread with
  | hash => rfl
  | range bounds =>
    have whole : (array (bounds.map fun bound => .integer bound.toInt)).isWhole = true := by
      refine isWhole_map (fun bound => ?_) bounds
      have least := bound.le_toInt
      have greatest := bound.toInt_lt
      simp only [isWhole, isWord, Bool.and_eq_true, decide_eq_true_eq]
      omega
    exact isWhole_record (by simp [whole, isWhole_ofString])

theorem RuleLayout.isWhole_toJson? (rule : Option RuleLayout) : (toJson? rule).isWhole = true := by
  cases rule with
  | none => rfl
  | some rule => exact isWhole_record (by simp [rule.spread.isWhole_toJson, isWhole_ofString])

theorem TableLayout.isWhole_toJson (table : TableLayout) : table.toJson.isWhole = true := by
  have kind : table.kind.toJson.isWhole = true := by cases table.kind <;> rfl
  exact isWhole_record (by
    simp [kind, ShardId.isWhole_listToJson, RuleLayout.isWhole_toJson?, isWhole_ofString])

theorem Layout.isWhole_toJson (layout : Layout) : layout.toJson.isWhole = true := by
  have tables := isWhole_map TableLayout.isWhole_toJson layout.tables
  exact isWhole_record (by simp [tables, ShardId.isWhole_listToJson, isWhole_ofString])

/-! ### Texts -/

/-- **A layout survives its JSON form.** It is read back from the text of its form; and from any text that
spells the form with the members of its objects in another order, of which there is one for every order. -/
theorem layouts_kept (layout : Layout) :
    Layout.read? layout.toJson.written = some layout ∧
      ∀ json, Reordered layout.toJson json → Json.read? json.written = some json ∧
        ∀ text, Json.read? text = some json → Layout.read? text = some layout := by
  have spelled {json : Json} (same : Reordered layout.toJson json) :
      Json.read? json.written = some json :=
    read?_written (same.isWhole_eq ▸ layout.isWhole_toJson)
  have kept {json : Json} (same : Reordered layout.toJson json) {text : String}
      (read : Json.read? text = some json) : Layout.read? text = some layout := by
    rw [Layout.read?, read, Option.bind_some, ← Layout.orderless same, layout.ofJson?_toJson]
  exact ⟨kept (.refl _) (spelled (.refl _)), fun json same => ⟨spelled same, fun _ => kept same⟩⟩

/-- One table by ranges. -/
def Layout.ranged : Layout :=
  { name := "shop", shards := [0, 1]
    tables := [{ name := "orders", shards := [0, 1], rule := some ⟨"id", .range [-1, 1000]⟩ }] }

/-- The form of a table by ranges with every object the other way round: its kind comes last. -/
def Layout.rangedBackwards : Json :=
  let spread := record [("bounds", .array [.integer (-1), .integer 1000]), ("kind", ofString "range")]
  let rule := record [("function", spread), ("column", ofString "id")]
  let shards := Json.array [.integer 0, .integer 1]
  record [("tables", .array [record [("rule", rule), ("shards", shards), ("type", ofString "normal"),
      ("name", ofString "orders")]]),
    ("shards", shards), ("name", ofString "shop")]

theorem Json.Reordered.backwards (members : List (String × Json)) :
    Reordered (record members) (record members.reverse) :=
  .moved ((List.reverse_perm members).symm.map _)

theorem Layout.ranged_reordered : Reordered ranged.toJson rangedBackwards := by
  have spread := Reordered.backwards
    [("kind", ofString "range"), ("bounds", .array [.integer (-1), .integer 1000])]
  have rule := (Reordered.member [(some "column", ofString "id")] [] (some "function") spread).trans
    (.backwards [("column", _), ("function", _)])
  have table := (Reordered.member [(some "name", ofString "orders"), (some "type", ofString "normal"),
    (some "shards", .array [.integer 0, .integer 1])] [] (some "rule") rule).trans
    (.backwards [("name", _), ("type", _), ("shards", _), ("rule", _)])
  exact (Reordered.member [(some "name", ofString "shop"), (some "shards", _)] [] (some "tables")
    (.item [] [] table)).trans (.backwards [("name", _), ("shards", _), ("tables", _)])

/-- The layout with ranges is read back from the text of its form backwards. -/
theorem ranged_kept : Reordered Layout.ranged.toJson Layout.rangedBackwards ∧
    Layout.read? Layout.rangedBackwards.written = some Layout.ranged := by
  have kept := (layouts_kept Layout.ranged).2 Layout.rangedBackwards Layout.ranged_reordered
  exact ⟨Layout.ranged_reordered, kept.2 _ kept.1⟩

end ScatterGather
