import Taskledger.Domain.Records

/-!
# Reading plain values

The readers every `from_dict` is made of: what they take from a value, what
they refuse, and what they take from a value that was written.
-/

namespace Taskledger

open Library

/-- `TASKLEDGER_SCHEMA_VERSION`. -/
def taskledgerSchemaVersion : Int := 1

/-- `TASKLEDGER_V2_FILE_VERSION`. -/
def taskledgerV2FileVersion : String := "v2"

/-- `_optional_string`. -/
def optionalString (v : Value) : Option String := v.asString?

/-- `_optional_int`. Versions, sizes and process ids are natural numbers in the
records: a negative one reads as zero. -/
def optionalNat (v : Value) : Option Nat := v.asInt?.map Int.toNat

/-- `a or b` on optional numbers. -/
def orNumber : Option Nat → Option Nat → Option Nat
  | some (n + 1), _ => some (n + 1)
  | _, b => b

/-- `_string_tuple`. -/
def stringTuple : Value → List String
  | .list items => items.filterMap Value.asString?
  | _ => []

/-- `_dict_list`. -/
def dictList : Value → List Dict
  | .list items => items.filterMap fun item => match item with
    | .dict d => some d
    | _ => none
  | _ => []

/-- `_first_string`. -/
def firstString : Value → Option String
  | .list items => (items.filterMap Value.asString?).head?
  | _ => none

/-- `bool(value) if value is not None else None`. -/
def optionalBool : Value → Option Bool
  | .null => none
  | v => some v.truthy

/-- `_string_value`. -/
def stringValue (data : Dict) (key : String) : Except Raised String :=
  match data.get key with
  | .str text => do
    requireString key text
    return text
  | _ => .error (launchError ("Missing or invalid '" ++ key ++ "' value."))

/-- `_optional_string(data.get(key)) or utc_now_iso()`. -/
def stampValue (now : String) (data : Dict) (key : String) : String :=
  (orOption (optionalString (data.get key)) none).getD now

/-- `_optional_parent_relation`. -/
def optionalParentRelation (v : Value) : Except Raised (Option String) :=
  match optionalString v with
  | none => .ok none
  | some relation => do
    raiseIf (relation ≠ "follow_up")
      (launchError ("Unsupported task parent_relation: " ++ relation))
    return some relation

/-- `_plan_version_value`. -/
def planVersionValue (v : Value) : Option Nat :=
  match v.asInt? with
  | some i => some i.toNat
  | none => planVersionFromId (optionalString v)

/-- What `parse` reads from a mapping, and `otherwise` for what is no mapping. -/
def ofMapping {α : Type} (otherwise : Except Raised α) (parse : Dict → Except Raised α) :
    Value → Except Raised α
  | .dict data => parse data
  | _ => otherwise

/-- The first refusal of a list of readings, or all that was read. -/
def readAll {α β : Type} (parse : β → Except Raised α) : List β → Except Raised (List α)
  | [] => .ok []
  | b :: rest => do
    let first ← parse b
    let others ← readAll parse rest
    return first :: others

theorem mem_readAll {α β : Type} {parse : β → Except Raised α} {items : List β} {read : List α}
    (h : readAll parse items = .ok read) {a : α} :
    a ∈ read ↔ ∃ b ∈ items, parse b = .ok a := by
  induction items generalizing read with
  | nil =>
    cases h
    simp
  | cons b rest ih =>
    obtain ⟨first, hfirst, h⟩ := bind_eq_ok.1 h
    obtain ⟨others, hothers, h⟩ := bind_eq_ok.1 h
    cases pure_eq_ok.1 h
    simp only [List.mem_cons, ih hothers, exists_eq_or_imp, hfirst, Except.ok.injEq]
    exact or_congr_left eq_comm

theorem readAll_returns {α β : Type} {parse : β → Except Raised α} {items : List β}
    {read : List α} (h : readAll parse items = .ok read) {b : β} (hb : b ∈ items) :
    ∃ a, parse b = .ok a := by
  induction items generalizing read with
  | nil => cases hb
  | cons c rest ih =>
    obtain ⟨first, hfirst, h⟩ := bind_eq_ok.1 h
    obtain ⟨others, hothers, h⟩ := bind_eq_ok.1 h
    rcases List.mem_cons.1 hb with rfl | hb
    · exact ⟨first, hfirst⟩
    · exact ih hothers hb

/-- `tuple(from_dict(item) for item in _dict_list(value))`. -/
def recordList {α : Type} (fromDict : Value → Except Raised α) (v : Value) :
    Except Raised (List α) :=
  readAll (fun item => fromDict (.dict item)) (dictList v)

/-- `from_dict(value) if value is not None else None`. -/
def unlessNone {α : Type} (fromDict : Value → Except Raised α) :
    Value → Except Raised (Option α)
  | .null => .ok none
  | v => do
    let record ← fromDict v
    return some record

/-- `from_dict(value) if value else None`. -/
def unlessEmpty {α : Type} (fromDict : Value → Except Raised α) (v : Value) :
    Except Raised (Option α) :=
  if v.truthy then do
    let record ← fromDict v
    return some record
  else .ok none

/-- The member a text of the record names, when there is one. -/
def memberOr {α : Type} (normalize : String → Except Raised α) (fallback : String) (v : Value) :
    Except Raised α :=
  normalize ((orOption (optionalString v) none).getD fallback)

/-- `normalize(v) if (v := _optional_string(value)) else None`. -/
def memberUnlessEmpty {α : Type} (normalize : String → Except Raised α) (v : Value) :
    Except Raised (Option α) :=
  match orOption (optionalString v) none with
  | none => .ok none
  | some text => do
    let member ← normalize text
    return some member

variable [Runtime]

/-- `repr(value)` of a plain value. -/
def reprOf : Value → String
  | .str text => Runtime.repr text
  | v => Runtime.strOf v

/-- `_require_v2_file_version`. -/
def requireV2FileVersion (data : Dict) : Except Raised Unit :=
  raiseIf (optionalString (data.get "file_version") ≠ some taskledgerV2FileVersion)
    (launchError ("Unsupported file version: expected v2, got "
      ++ reprOf (.ofOption (optionalString (data.get "file_version"))) ++ "."))

/-- `_require_contract`. -/
def requireContract (data : Dict) (expectedObjectType : String) : Except Raised Unit := do
  raiseIf ((data.get "schema_version").asInt?.all fun version => taskledgerSchemaVersion < version)
    (launchError ("Unsupported schema version: expected <= 1, got "
      ++ reprOf (data.get "schema_version") ++ "."))
  raiseIf (optionalString (data.get "object_type") ≠ some expectedObjectType)
    (launchError ("Missing or invalid 'object_type': expected " ++ Runtime.repr expectedObjectType
      ++ ", got " ++ reprOf (.ofOption (optionalString (data.get "object_type"))) ++ "."))
  if (data.get? "file_version").isSome then requireV2FileVersion data else return ()

/-- `_require_sidecar_contract`: fields that are absent are not checked. -/
def requireSidecarContract (data : Dict) (expectedObjectType : String) : Except Raised Unit := do
  raiseIf ((data.get "schema_version").asInt?.any fun version => taskledgerSchemaVersion < version)
    (launchError ("Record schema too new: " ++ Runtime.strOf (data.get "schema_version")
      ++ " (current max: 1). Please upgrade taskledger."))
  raiseIf ((optionalString (data.get "object_type")).any fun found => found ≠ expectedObjectType)
    (launchError ("Invalid object_type: expected " ++ Runtime.repr expectedObjectType ++ ", got "
      ++ reprOf (.ofOption (optionalString (data.get "object_type"))) ++ "."))
  raiseIf ((optionalString (data.get "file_version")).any fun v => v ≠ taskledgerV2FileVersion)
    (launchError ("Unsupported file version: expected v2, got "
      ++ reprOf (.ofOption (optionalString (data.get "file_version"))) ++ "."))

-- ════════════════════════════════════════════════════════════════════════
-- What the readers take from written values
-- ════════════════════════════════════════════════════════════════════════

omit [Runtime]

@[simp]
theorem optionalString_str (text : String) : optionalString (.str text) = some text := rfl

@[simp]
theorem optionalString_null : optionalString .null = none := rfl

@[simp]
theorem optionalString_ofOption (text : Option String) :
    optionalString (.ofOption text) = text := by
  cases text <;> rfl

@[simp]
theorem optionalNat_int (n : Nat) : optionalNat (.int n) = some n := by
  simp [optionalNat, Value.asInt?]

@[simp]
theorem optionalNat_ofNat? (n : Option Nat) : optionalNat (.ofNat? n) = n := by
  cases n with
  | none => rfl
  | some n => exact optionalNat_int n

@[simp]
theorem asInt?_ofInt? (i : Option Int) : ((i.map Value.int).getD .null).asInt? = i := by
  cases i <;> rfl

@[simp]
theorem optionalBool_ofBool? (b : Option Bool) : optionalBool (.ofBool? b) = b := by
  cases b <;> rfl

@[simp]
theorem truthy_bool (b : Bool) : (Value.bool b).truthy = b := rfl

@[simp]
theorem stringTuple_null : stringTuple .null = [] := rfl

@[simp]
theorem stringTuple_ofStrings (items : List String) : stringTuple (.ofStrings items) = items := by
  simp only [stringTuple, Value.ofStrings]
  induction items with
  | nil => rfl
  | cons item rest ih =>
    rw [List.map_cons]
    exact congrArg (item :: ·) ih

@[simp]
theorem firstString_ofStrings (items : List String) :
    firstString (.ofStrings items) = items.head? := by
  show (stringTuple (.ofStrings items)).head? = items.head?
  rw [stringTuple_ofStrings]

theorem dictList_map {α : Type} (toDict : α → Dict) (items : List α) :
    dictList (.list (items.map fun item => .dict (toDict item))) = items.map toDict := by
  induction items with
  | nil => rfl
  | cons item rest ih =>
    show toDict item :: dictList (.list (rest.map fun item => .dict (toDict item))) = _
    rw [ih, List.map_cons]

theorem orOption_some {text : String} (h : text ≠ "") (other : Option String) :
    orOption (some text) other = some text := by
  simp [orOption, h]

/-- A text is kept unless it is empty. -/
theorem orOption_getD (text fallback : String) :
    (orOption (some text) none).getD fallback = Text.orElse text fallback := by
  by_cases h : text = ""
  · simp [orOption, Text.orElse, h]
  · simp [orOption, Text.orElse, h]

theorem stampValue_str {now text : String} {data : Dict} {key : String}
    (h : data.get key = .str text) : stampValue now data key = Text.orElse text now := by
  rw [stampValue, h, optionalString_str, orOption_getD]

/-- A text that is replaced when it is empty stays the same when it is not. -/
theorem orElse_eq_self {text fallback : String} (h : fallback ≠ "") :
    Text.orElse text fallback = text ↔ text ≠ "" := by
  unfold Text.orElse
  split
  · rename_i hempty
    simpa [hempty] using h
  · rename_i hne
    simpa using hne

theorem readAll_eq_self {α β : Type} {parse : β → Except Raised α} {toRecord : α → β}
    {items : List α} :
    readAll parse (items.map toRecord) = .ok items ↔
      ∀ item ∈ items, parse (toRecord item) = .ok item := by
  induction items with
  | nil => simp [readAll]
  | cons item rest ih =>
    simp only [List.map_cons, readAll, bind_eq_ok, pure_eq_ok, List.cons.injEq,
      List.forall_mem_cons]
    constructor
    · rintro ⟨first, hfirst, others, hothers, rfl, rfl⟩
      exact ⟨hfirst, ih.1 hothers⟩
    · rintro ⟨hfirst, hrest⟩
      exact ⟨item, hfirst, rest, ih.2 hrest, rfl, rfl⟩

/-- Records written as a list of mappings are read back one by one. -/
theorem recordList_eq_self {α : Type} {fromDict : Value → Except Raised α} {toDict : α → Dict}
    {items : List α} :
    recordList fromDict (.list (items.map fun item => .dict (toDict item))) = .ok items ↔
      ∀ item ∈ items, fromDict (.dict (toDict item)) = .ok item := by
  rw [recordList, dictList_map, readAll_eq_self]

theorem unlessNone_ofDict? {α : Type} {fromDict : Value → Except Raised α} {toDict : α → Dict}
    {record : Option α} :
    unlessNone fromDict (.ofDict? (record.map toDict)) = .ok record ↔
      ∀ r ∈ record, fromDict (.dict (toDict r)) = .ok r := by
  cases record with
  | none => simp [Value.ofDict?, unlessNone]
  | some r => simp [Value.ofDict?, unlessNone, map_eq_ok]

theorem unlessEmpty_ofDict? {α : Type} {fromDict : Value → Except Raised α} {toDict : α → Dict}
    {record : Option α} (hne : ∀ r, toDict r ≠ []) :
    unlessEmpty fromDict (.ofDict? (record.map toDict)) = .ok record ↔
      ∀ r ∈ record, fromDict (.dict (toDict r)) = .ok r := by
  cases record with
  | none => simp [Value.ofDict?, unlessEmpty, Value.truthy]
  | some r => simp [Value.ofDict?, unlessEmpty, Value.truthy, hne, map_eq_ok]

@[simp]
theorem ofMapping_dict {α : Type} (otherwise : Except Raised α) (parse : Dict → Except Raised α)
    (data : Dict) : ofMapping otherwise parse (.dict data) = parse data := rfl

/-- The text of a member is not empty. -/
theorem value_ne {α : Type} [Enumeration α]
    (h : "" ∉ (Enumeration.members : List α).map value) (a : α) : value a ≠ "" := fun ha =>
  h (ha ▸ List.mem_map_of_mem (Enumeration.complete a))

theorem memberOr_value {α : Type} [Enumeration α] {normalize : String → Except Raised α}
    {fallback : String} (hnormal : ∀ a, normalize (value a) = .ok a)
    (h : "" ∉ (Enumeration.members : List α).map value) (a : α) :
    memberOr normalize fallback (.str (value a)) = .ok a := by
  rw [memberOr, optionalString_str, orOption_some (value_ne h a)]
  exact hnormal a

theorem memberUnlessEmpty_value {α : Type} [Enumeration α] {normalize : String → Except Raised α}
    (hnormal : ∀ a, normalize (value a) = .ok a)
    (h : "" ∉ (Enumeration.members : List α).map value) (o : Option α) :
    memberUnlessEmpty normalize (.ofOption (o.map value)) = .ok o := by
  cases o with
  | none => rfl
  | some a =>
    rw [memberUnlessEmpty, optionalString_ofOption, Option.map_some,
      orOption_some (value_ne h a)]
    simp only [hnormal]
    rfl

theorem normalizeWith_value {α : Type} [Enumeration α] (refusal shown : String) (a : α) :
    normalizeWith α refusal shown (value a) = .ok a := by
  simp [normalizeWith]

end Taskledger
