import Conduit.Config.Document
import Conduit.Proofs.Config.Documents

/-! Settings are read back from what is written for them.
Their document is one of many that describe them, so reading it is a case of reading those.
-/

namespace Conduit.Config

/-- A capacity is written in plain digits. -/
theorem chars_capacity (n : Nat) : (Json.Value.int n).chars = Nat.toDigits 10 n := by
  rw [Json.Value.chars, Int.toString_eq_repr, Int.repr_eq_if, if_pos (Int.natCast_nonneg n),
    Nat.toList_repr, Int.toNat_natCast]

theorem isMember_compactEntry {setting : Setting} {key : String} {value : Json.Value}
    (isKey : setting.IsKey key) (written : setting.IsWritten value.chars)
    : setting.IsMember (Json.compactEntry (key, value)) :=
  ⟨⟨key, Json.isStringOf_encodeString key, isKey⟩, .nil, .nil, written⟩

/-- An object of a capacity and a label says just these. -/
theorem describes_object {n : Nat} (inRange : n < UInt64.size) {label : Option String}
    {value : Json.Value} (written : (Setting.label label).IsWritten value.chars)
    : Describes [.capacity n, .label label]
      (Json.Value.obj [("capacity", .int n), ("label", value)]).chars := by
  have digits : (Setting.capacity n).IsWritten (Json.Value.int n).chars := by
    rw [chars_capacity]
    exact .capacity inRange
  have first : (Setting.capacity n).IsMember (Json.compactEntry ("capacity", .int n)) :=
    isMember_compactEntry rfl digits
  have second : (Setting.label label).IsMember (Json.compactEntry ("label", value)) :=
    isMember_compactEntry rfl written
  exact .object (Setting.apart_both n label) (.cons first (.cons second .nil))
    (Json.joined_memberChars [("capacity", .int n), ("label", value)]) .nil .nil

/-- What is written for settings says just these, without blanks. -/
theorem describes_document {config : Config} (inRange : config.capacity < UInt64.size)
    : Describes [.capacity config.capacity, .label config.label] config.document.toList := by
  obtain ⟨n, label⟩ := config
  rw [document, Json.Value.text, String.toList_ofList]
  cases label with
  | none => exact describes_object inRange .noLabel
  | some label =>
    exact describes_object inRange (.label (Json.isStringOf_encodeString label))

theorem ofDocument_document {config : Config} (inRange : config.capacity < UInt64.size)
    : ofDocument config.document = .ok config :=
  ofDocument_describes (describes_document inRange)

/-- Settings are read back from their document, whatever their label is made of, and so
different settings have different documents; no label is not the same as any label, whatever
that says.
-/
theorem document_roundTrip
    : (∀ config : Config,
        config.capacity < UInt64.size → ofDocument config.document = .ok config)
      ∧ (∀ config other : Config,
        config.capacity < UInt64.size
        → other.capacity < UInt64.size
        → config ≠ other
        → config.document ≠ other.document)
      ∧ ∀ (capacity other : Nat) (label : String),
        capacity < UInt64.size
        → other < UInt64.size
        → (ofCapacity capacity).document
          ≠ ((ofCapacity other).withLabel label).document := by
  have apart : ∀ config other : Config,
      config.capacity < UInt64.size
      → other.capacity < UInt64.size
      → config ≠ other
      → config.document ≠ other.document := by
    intro config other inRange otherInRange different same
    have reads := ofDocument_document inRange
    rw [same, ofDocument_document otherInRange] at reads
    exact different (Except.ok.inj reads).symm
  refine ⟨fun config inRange => ofDocument_document inRange, apart, ?_⟩
  intro capacity other label inRange otherInRange
  refine apart _ _ inRange otherInRange fun same => ?_
  have labels : none = some label := congrArg Config.label same
  cases labels

/-- The largest capacity, with a label of a quote, a backslash, two controls and a character
of four bytes; and a label that reads like none.
-/
theorem document_roundTrip_escaped
    : let config : Config := ⟨UInt64.size - 1, some "null\"\\\x00\n𝄞"⟩
      ofDocument config.document = .ok config
      ∧ config.document ≠ (ofCapacity (UInt64.size - 1)).document
      ∧ (ofCapacity 0).document ≠ ((ofCapacity 0).withLabel "null").document :=
  ⟨document_roundTrip.1 _ (by decide),
    document_roundTrip.2.1 _ _ (by decide) (by decide) (by decide),
    document_roundTrip.2.2 0 0 "null" (by decide) (by decide)⟩

end Conduit.Config
