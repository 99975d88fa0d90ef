import Courier.Envelope.Reader
import Courier.Proofs.Json.Values

/-! What the reader of an envelope takes from an object: its members one after another, however they are
spelled. -/

namespace Courier.Json

def Value.text? : Value → Option (List Char)
  | .text text? => text?
  | _ => none

def Value.message? : Value → Option (List UInt8)
  | .null => some []
  | .text text? => text?.bind fun text => (Base64.decode (Text.encode text)).toOption
  | _ => none

theorem Spells.text_or {value : Value} {bytes : List UInt8} (spelled : Spells value bytes) :
    (∃ pieces, value = .text (textOf? pieces) ∧ bytes = quoted pieces) ∨
      value.text? = none ∧ ∃ b tail, bytes = b :: tail ∧ Starts b ∧ b ≠ quoteMark := by
  cases spelled with
  | text pieces => exact .inl ⟨pieces, rfl, rfl⟩
  | number valid =>
      obtain ⟨b, tail, same, starts, far⟩ := valid.head
      exact .inr ⟨rfl, b, tail, same, starts, far _ (by decide)⟩
  | _ => exact .inr ⟨rfl, _, _, rfl, ⟨rfl, by decide⟩, by decide⟩

theorem Spells.null_or {value : Value} {bytes : List UInt8} (spelled : Spells value bytes) :
    (value = .null ∧ bytes = 110 :: nullTail) ∨
      value.message? =
        value.text?.bind (fun text => (Base64.decode (Text.encode text)).toOption) ∧
      ∃ b tail, bytes = b :: tail ∧ Starts b ∧ b ≠ 110 := by
  cases spelled with
  | null => exact .inl ⟨rfl, rfl⟩
  | number valid =>
      obtain ⟨b, tail, same, starts, far⟩ := valid.head
      exact .inr ⟨rfl, b, tail, same, starts, far _ (by decide)⟩
  | _ => exact .inr ⟨rfl, _, _, rfl, ⟨rfl, by decide⟩, by decide⟩

end Courier.Json

namespace Courier.Envelope

open Json (Blank Piece Value Spells Separated MemberOf EndsNumber Starts)

theorem toOption_ok {ε α : Type} (a : α) : (.ok a : Except ε α).toOption = some a := rfl

theorem toOption_error {ε α : Type} (e : ε) : (.error e : Except ε α).toOption = none := rfl

theorem toOption_eq_some_iff {ε α : Type} {x : Except ε α} {a : α} :
    x.toOption = some a ↔ x = .ok a := by
  cases x <;> simp [Except.toOption]

theorem toOption_eq_none_iff {ε α : Type} {x : Except ε α} :
    x.toOption = none ↔ ∃ e, x = .error e := by
  cases x <;> simp [Except.toOption]

section

variable {value : Value} {bytes rest before after lead inner : List UInt8} {field : Field}
  {draft : Draft} {isFirst : Bool}

theorem readText_quoted (blank : Blank before) (pieces : List Piece) (rest : List UInt8) :
    (readText (before ++ Json.quoted pieces ++ rest)).toOption =
      (Json.textOf? pieces).map (·, rest) := by
  have split : before ++ Json.quoted pieces ++ rest =
      before ++ Json.quoteMark :: (Json.bytesOf pieces ++ Json.quoteMark :: rest) := by
    simp [Json.quoted]
  rw [split, readText, Json.skipBlanks_append_cons blank rfl]
  exact Json.readString_bytesOf pieces rest

theorem readText_other {b : UInt8} (blank : Blank before) (starts : Starts b)
    (noQuote : b ≠ Json.quoteMark) (rest : List UInt8) :
    (readText (before ++ b :: rest)).toOption = none := by
  rw [readText, Json.skipBlanks_append_cons blank starts.visible]
  simp only [noQuote, if_false]
  rfl

theorem readText_spelled (blank : Blank before) (spelled : Spells value bytes) (rest : List UInt8) :
    (readText (before ++ bytes ++ rest)).toOption = value.text?.map (·, rest) := by
  rcases spelled.text_or with ⟨pieces, rfl, rfl⟩ | ⟨noText, b, tail, rfl, starts, noQuote⟩
  · exact readText_quoted blank pieces rest
  · rw [noText, List.append_assoc, List.cons_append, readText_other blank starts noQuote]
    rfl

theorem readBytes_eq (noNull : ∀ tail, Json.skipBlanks bytes ≠ 110 :: tail) :
    (readBytes bytes).toOption = (readText (Json.skipBlanks bytes)).toOption.bind
      fun (text, rest) => (Base64.decode (Text.encode text)).toOption.map (·, rest) := by
  unfold readBytes
  split
  case h_1 tail next => exact absurd next (noNull tail)
  case h_2 =>
    cases readText (Json.skipBlanks bytes) with
    | error => rfl
    | ok read =>
        obtain ⟨text, rest⟩ := read
        simp only [Except.toOption, Option.bind_some]
        cases Base64.decode (Text.encode text) <;> rfl

theorem readBytes_spelled (blank : Blank before) (spelled : Spells value bytes) (rest : List UInt8) :
    (readBytes (before ++ bytes ++ rest)).toOption = value.message?.map (·, rest) := by
  rcases spelled.null_or with ⟨rfl, rfl⟩ | ⟨same, b, tail, rfl, starts, noNull⟩
  · rw [List.append_assoc, List.cons_append, readBytes, Json.skipBlanks_append_cons blank rfl]
    simp only [Json.readLiteral_append]
    rfl
  · have next : Json.skipBlanks (before ++ b :: tail ++ rest) = b :: tail ++ rest := by
      rw [List.append_assoc, List.cons_append, Json.skipBlanks_append_cons blank starts.visible]
    have text := readText_spelled Json.blank_nil spelled rest
    rw [List.nil_append] at text
    have noNull' : ∀ tail', Json.skipBlanks (before ++ b :: tail ++ rest) ≠ 110 :: tail' := by
      rw [next]
      rintro tail' ⟨rfl⟩
      exact noNull rfl
    rw [readBytes_eq noNull', next, text, same]
    cases value.text? <;> rfl

/-! One member. -/

def Draft.put? (draft : Draft) (field : Field) (value : Value) : Option Draft :=
  match field with
  | .messageId =>
      value.text?.map fun text => { draft with messageId := some (String.ofList text) }
  | .topic => value.text?.map fun text => { draft with topic := some (String.ofList text) }
  | .sourceNodeId =>
      value.text?.map fun text => { draft with sourceNodeId := some (String.ofList text) }
  | .message => value.message?.map fun message => { draft with message := some message }

/-- Takes a member. No field is given twice, and what is no field is passed over. -/
def Draft.accept (draft : Draft) (member : Option (List Char) × Value) : Option Draft :=
  member.1.bind fun name =>
    match Field.ofName? name with
    | none => some draft
    | some field => if draft.has field then none else draft.put? field member.2

theorem Draft.read_spelled (draft : Draft) (field : Field) (blank : Blank before)
    (spelled : Spells value bytes) (rest : List UInt8) :
    (draft.read field (before ++ bytes ++ rest)).toOption = (draft.put? field value).map (·, rest) := by
  have text := readText_spelled blank spelled rest
  have message := readBytes_spelled blank spelled rest
  cases field with
  | message =>
      simp only [Draft.read, Draft.put?]
      cases found : value.message? with
      | none =>
          rw [found] at message
          obtain ⟨failure, failed⟩ := toOption_eq_none_iff.mp message
          simp only [failed]
          rfl
      | some bytes =>
          rw [found] at message
          simp only [toOption_eq_some_iff.mp message]
          rfl
  | _ =>
      simp only [Draft.read, Draft.put?]
      cases found : value.text? with
      | none =>
          rw [found] at text
          obtain ⟨fault, failed⟩ := toOption_eq_none_iff.mp text
          simp only [failed]
          rfl
      | some characters =>
          rw [found] at text
          simp only [toOption_eq_some_iff.mp text]
          rfl

theorem toOption_readMembers (isFirst : Bool) (draft : Draft) (bytes : List UInt8) :
    (readMembers isFirst draft bytes).toOption =
      match readKeyMark isFirst bytes with
      | .error _ => none
      | .ok (false, rest) => some (draft, rest)
      | .ok (true, rest) =>
          (Json.readString rest).toOption.bind fun (name, rest) =>
            (Field.ofName? name).elim
              ((Json.readColon rest).toOption.bind fun rest =>
                (Json.skipValue rest).toOption.bind fun rest =>
                  (readMembers false draft rest).toOption)
              fun field =>
                if draft.has field then none
                else
                  (Json.readColon rest).toOption.bind fun rest =>
                    (draft.read field rest).toOption.bind fun (draft, rest) =>
                      (readMembers false draft rest).toOption := by
  -- Only the left side is split, so the result gets a name.
  generalize result : readMembers isFirst draft bytes = found
  rw [readMembers] at result
  split at result
  case h_1 failed => simp only [failed, ← result, toOption_error]
  case h_2 ended => simp only [ended, ← result, toOption_ok]
  case h_3 rest opened =>
    simp only [opened]
    split at result
    case h_1 failed => simp only [failed, ← result, toOption_error, Option.bind_none]
    case h_2 name rest read =>
      simp only [read, toOption_ok, Option.bind_some]
      split at result
      case h_1 unknown =>
        simp only [unknown, Option.elim_none]
        split at result
        case h_1 failed => simp only [failed, ← result, toOption_error, Option.bind_none]
        case h_2 rest colon =>
          simp only [colon, toOption_ok, Option.bind_some]
          split at result
          case h_1 failed => simp only [failed, ← result, toOption_error, Option.bind_none]
          case h_2 skipped => simp only [skipped, ← result, toOption_ok, Option.bind_some]
      case h_2 field known =>
        simp only [known, Option.elim_some]
        split at result
        case isTrue again => simp only [again, if_true, ← result, toOption_error]
        case isFalse new =>
          simp only [new, Bool.false_eq_true, if_false]
          split at result
          case h_1 failed => simp only [failed, ← result, toOption_error, Option.bind_none]
          case h_2 rest colon =>
            simp only [colon, toOption_ok, Option.bind_some]
            split at result
            case h_1 failed => simp only [failed, ← result, toOption_error, Option.bind_none]
            case h_2 taken => simp only [taken, ← result, toOption_ok, Option.bind_some]

/-- What stands before a member, after those that were read, or before the first. -/
inductive Leads : Bool → List UInt8 → Prop where
  | first {before : List UInt8} (blank : Blank before) : Leads true before
  | later {after before : List UInt8} (blank : Blank after) (blank' : Blank before) :
      Leads false (after ++ Json.comma :: before)

theorem Leads.readKeyMark (leads : Leads isFirst lead) (rest : List UInt8) :
    readKeyMark isFirst (lead ++ Json.quoteMark :: rest) = .ok (true, rest) := by
  cases leads with
  | first blank =>
      rw [Envelope.readKeyMark, Json.skipBlanks_append_cons blank rfl]
      rfl
  | later blank blank' =>
      rw [Envelope.readKeyMark, List.append_assoc, List.cons_append,
        Json.skipBlanks_append_cons blank rfl]
      simp only [Json.skipBlanks_append_cons blank' (b := Json.quoteMark) rfl]
      rfl

theorem readMembers_member {member : Option (List Char) × Value} (leads : Leads isFirst lead)
    (spelled : MemberOf Spells member bytes) (ends : EndsNumber rest) (draft : Draft) :
    (readMembers isFirst draft (lead ++ bytes ++ rest)).toOption =
      (draft.accept member).bind fun draft => (readMembers false draft rest).toOption := by
  cases spelled with
  | @mk value after before inner name blank blank' one =>
      have split : lead ++ (Json.quoted name ++ after ++ Json.colon :: before ++ inner) ++ rest =
          lead ++ Json.quoteMark :: (Json.bytesOf name ++
            Json.quoteMark :: (after ++ Json.colon :: (before ++ inner ++ rest))) := by
        simp [Json.quoted]
      have colon : Json.readColon (after ++ Json.colon :: (before ++ inner ++ rest)) =
          .ok (before ++ inner ++ rest) := by
        rw [Json.readColon, Json.skipBlanks_append_cons blank rfl]
        rfl
      have skipped : Json.skipValue (before ++ inner ++ rest) = .ok rest := by
        rw [Json.skipValue, List.append_assoc, Json.skipFrom_blank blank',
          one.passes [] rest (value.endsAt ends), Json.skipFrom_done]
      rw [split, toOption_readMembers, leads.readKeyMark]
      simp only [Json.readString_bytesOf, Draft.accept]
      cases Json.textOf? name with
      | none => rfl
      | some text =>
          simp only [Option.map_some, Option.bind_some]
          cases Field.ofName? text with
          | none => simp only [Option.elim_none, colon, skipped, toOption_ok, Option.bind_some]
          | some field =>
              simp only [Option.elim_some]
              cases draft.has field with
              | true => rfl
              | false =>
                  simp only [Bool.false_eq_true, if_false, colon, toOption_ok, Option.bind_some,
                    draft.read_spelled field blank' one]
                  cases draft.put? field value <;> rfl

theorem readMembers_end (blank : Blank after) (isFirst : Bool) (draft : Draft) (rest : List UInt8) :
    (readMembers isFirst draft (after ++ Json.closeObject :: rest)).toOption =
      some (draft, Json.closeObject :: rest) := by
  rw [toOption_readMembers, readKeyMark, Json.skipBlanks_append_cons blank rfl]
  rfl

theorem readMembers_separated {members : List (Option (List Char) × Value)}
    (separated : Separated (MemberOf Spells) members inner) (leads : Leads isFirst lead)
    (draft : Draft) (rest : List UInt8) :
    (readMembers isFirst draft (lead ++ inner ++ Json.closeObject :: rest)).toOption =
      (members.foldlM Draft.accept draft).map (·, Json.closeObject :: rest) := by
  induction separated generalizing isFirst lead draft with
  | @last member bytes after one blank =>
      have split : lead ++ (bytes ++ after) ++ Json.closeObject :: rest =
          lead ++ bytes ++ (after ++ Json.closeObject :: rest) := by simp
      rw [split, readMembers_member leads one (Json.endsNumber_append_cons blank (.inr (.inr rfl))),
        List.foldlM_cons]
      cases draft.accept member with
      | none => rfl
      | some draft => exact readMembers_end blank false draft rest
  | @more member members bytes after before inner one blank blank' others induction =>
      have split : lead ++ (bytes ++ after ++ Json.comma :: before ++ inner) ++
          Json.closeObject :: rest =
          lead ++ bytes ++ (after ++ Json.comma :: (before ++ inner ++ Json.closeObject :: rest)) := by
        simp
      have split' : after ++ Json.comma :: (before ++ inner ++ Json.closeObject :: rest) =
          (after ++ Json.comma :: before) ++ inner ++ Json.closeObject :: rest := by simp
      rw [split, readMembers_member leads one (Json.endsNumber_append_cons blank (.inl rfl)),
        List.foldlM_cons]
      cases draft.accept member with
      | none => rfl
      | some draft =>
          rw [Option.bind_some, split', induction (.later blank blank')]
          rfl

theorem read_object {members : List (Option (List Char) × Value)} (blank : Blank before)
    (spelled : Spells (.object members) bytes) (rest : List UInt8) :
    (read (before ++ bytes ++ rest)).toOption =
      (members.foldlM Draft.accept .empty).map fun draft => (draft.finish, rest) := by
  have opened {inner : List UInt8} (read' : (readMembers true .empty (inner ++ Json.closeObject ::
      rest)).toOption =
        (members.foldlM Draft.accept .empty).map (·, Json.closeObject :: rest)) :
      (read (before ++ (Json.openObject :: inner ++ [Json.closeObject]) ++ rest)).toOption =
        (members.foldlM Draft.accept .empty).map fun draft => (draft.finish, rest) := by
    have split : before ++ (Json.openObject :: inner ++ [Json.closeObject]) ++ rest =
        before ++ Json.openObject :: (inner ++ Json.closeObject :: rest) := by simp
    rw [split, read, Json.skipBlanks_append_cons blank rfl]
    simp only [if_true]
    cases folded : members.foldlM Draft.accept Draft.empty with
    | none =>
        rw [folded] at read'
        obtain ⟨failure, failed⟩ := toOption_eq_none_iff.mp read'
        simp only [failed]
        rfl
    | some draft =>
        rw [folded] at read'
        simp only [toOption_eq_some_iff.mp read']
        rfl
  cases spelled with
  | emptyObject blank' => exact opened (readMembers_end blank' true .empty rest)
  | object blank' separated =>
      have members := readMembers_separated separated (.first blank') .empty rest
      exact opened members

end

end Courier.Envelope
