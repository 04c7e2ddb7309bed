import Taskledger.Library.PlainData

/-!
# What the program takes from outside its source

`Runtime` collects the functions of `ledgercore`, of the YAML reader and of the
language's own library that the modelled code calls and that are not part of
the repository. Its fields with an equation say what the code relies on.
-/

namespace Taskledger

open Library

/-- The kinds of the ids the program makes. -/
def idKinds : List String :=
  ["task", "intro", "run", "change", "check", "review", "q", "todo", "handoff"]

/-- The third-party and library functions the services call. -/
class Runtime where
  /-- `repr(text)`. -/
  repr : String → String
  /-- `str(value)` of a plain value. -/
  strOf : Value → String
  strOf_str : ∀ s, strOf (.str s) = s
  strOf_ne : ∀ v, v.truthy = true → strOf v ≠ ""
  /-- `text.lower()`. -/
  lower : String → String
  /-- `text.upper()`. -/
  upper : String → String
  /-- The characters of a text for which `text.isdigit()`. -/
  isDigit : Char → Bool
  /-- `text.casefold()`. -/
  casefold : String → String
  /-- `int(text)`, when the text parses. -/
  parseInt : String → Option Int
  /-- `yaml.safe_load(text)`, or the text of its error. -/
  safeLoad : String → Except String Value
  /-- `yaml.safe_dump(mapping, sort_keys=False, allow_unicode=False)`. -/
  safeDump : Dict → String
  /-- `json.dumps(value, sort_keys=True, separators=(",", ":"))`. -/
  dumpJson : Value → String
  /-- The characters `\w` matches. -/
  isWord : Char → Bool
  /-- `slugify_ref(value, empty=…)`. -/
  slugifyRef : String → String → String
  /-- `LedgerIdFormat(kind).format(number)`. -/
  formatId : String → Nat → String
  /-- Ids of the program's kinds are in lower case, without blanks, and start with
  their kind. -/
  lower_formatId : ∀ kind ∈ idKinds, ∀ n, lower (formatId kind n) = formatId kind n
  strip_formatId : ∀ kind ∈ idKinds, ∀ n, Text.strip (formatId kind n) = formatId kind n
  startsWith_formatId : ∀ kind ∈ idKinds, ∀ n,
    Text.startsWith (formatId kind n) (kind ++ "-") = true
  /-- `LedgerIdFormat(kind).parse_parts(text).number`, when the text parses. -/
  parseNumber : String → String → Option Nat
  parseNumber_formatId : ∀ kind ∈ idKinds, ∀ n, parseNumber kind (formatId kind n) = some n
  /-- `LedgerIdFormat(kind).next(existing)`. -/
  nextId : String → List String → String
  nextId_fresh : ∀ kind ids, nextId kind ids ∉ ids
  nextId_format : ∀ kind ids, ∃ n, nextId kind ids = formatId kind n
  /-- `parse_resource_ref(text, …, allowed_kinds=[kind]).local_id`, or its error. -/
  parseLocalId : String → String → Except String String
  /-- An id the program formatted itself is a reference to that very record. -/
  parseLocalId_formatId : ∀ kind ∈ idKinds, ∀ n,
    parseLocalId kind (formatId kind n) = .ok (formatId kind n)
  /-- `parse_resource_ref(local_id).global_ref`. -/
  globalRef : String → String
  /-- `parse_resource_ref(local_id).file_ref`. -/
  fileRef : String → String
  /-- `normalize_newlines(text)`. -/
  normalizeNewlines : String → String
  normalizeNewlines_eq : ∀ text, normalizeNewlines text = Text.normalizeNewlines text
  /-- `content_hash(text)`. -/
  contentHash : String → String
  /-- `utc_now_iso()` at an instant, in microseconds. -/
  utcNowIso : Nat → String
  utcNowIso_ne : ∀ t, utcNowIso t ≠ ""
  /-- `datetime.isoformat()` of an instant. -/
  isoformat : Nat → String
  isoformat_ne : ∀ t, isoformat t ≠ ""
  /-- `datetime.fromisoformat(text)`, when the text parses. -/
  fromisoformat : String → Option Nat
  fromisoformat_isoformat : ∀ t, fromisoformat (isoformat t) = some t
  /-- `now.strftime("lock-%Y%m%dT%H%M%SZ")`. -/
  lockStamp : Nat → String

end Taskledger
