import Courier.Proofs.Envelope.Members
import Courier.Proofs.Json.Texts

/-! What is read as an envelope could be passed over as a value, and ends at the same place. So an
envelope is read from nothing but a JSON text. -/

namespace Courier.Envelope

open Json (Bracket Starts skipFrom skipBlanks skipKey skipOpening)

section

variable {bytes rest tail : List UInt8} {text : List Char} {message : List UInt8}
  {draft draft' : Draft} {field : Field} {isFirst : Bool} {around outer : List Bracket}

theorem skipFrom_skipBlanks (around : List Bracket) (bytes : List UInt8) :
    skipFrom false around (skipBlanks bytes) = skipFrom false around bytes := by
  obtain ⟨before, blank, same⟩ := Json.eq_append_skipBlanks bytes
  conv => rhs; rw [same, Json.skipFrom_blank blank]

theorem skipFrom_of_readText (read : readText bytes = .ok (text, rest)) (around : List Bracket) :
    skipFrom false around bytes = skipFrom true around rest := by
  rw [← skipFrom_skipBlanks]
  unfold readText at read
  split at read
  case h_1 => cases read
  case h_2 b tail next =>
    split at read
    case isFalse => cases read
    case isTrue quote =>
      have skipped : Json.skipScalar Json.quoteMark tail = .ok rest :=
        Json.skipString_of_readString read
      rw [next, quote, Json.skipFrom_scalar ⟨rfl, by decide⟩ rfl skipped]

theorem skipFrom_of_readBytes (read : readBytes bytes = .ok (message, rest)) (around : List Bracket) :
    skipFrom false around bytes = skipFrom true around rest := by
  rw [← skipFrom_skipBlanks]
  unfold readBytes at read
  split at read
  case h_1 tail next =>
    split at read
    case h_1 => cases read
    case h_2 literal =>
      cases read
      have skipped : Json.skipScalar 110 tail = .ok rest := literal
      rw [next, Json.skipFrom_scalar ⟨rfl, by decide⟩ rfl skipped]
  case h_2 =>
    split at read
    case h_1 => cases read
    case h_2 text rest' found =>
      split at read
      case h_1 => cases read
      case h_2 =>
        cases read
        exact skipFrom_of_readText found around

theorem skipFrom_of_draftRead (read : draft.read field bytes = .ok (draft', rest))
    (around : List Bracket) : skipFrom false around bytes = skipFrom true around rest := by
  cases field with
  | message =>
      simp only [Draft.read] at read
      split at read
      case h_1 => cases read
      case h_2 found =>
        cases read
        exact skipFrom_of_readBytes found around
  | _ =>
      simp only [Draft.read] at read
      split at read
      case h_1 => cases read
      case h_2 found =>
        cases read
        exact skipFrom_of_readText found around

/-! The members of an object. -/

inductive KeyMark : Bool → List UInt8 → Bool → List UInt8 → Prop where
  | ended {isFirst : Bool} {bytes tail : List UInt8}
      (visible : skipBlanks bytes = Json.closeObject :: tail) :
      KeyMark isFirst bytes false (Json.closeObject :: tail)
  | first {bytes rest : List UInt8} (visible : skipBlanks bytes = Json.quoteMark :: rest) :
      KeyMark true bytes true rest
  | later {bytes tail rest : List UInt8} (visible : skipBlanks bytes = Json.comma :: tail)
      (visible' : skipBlanks tail = Json.quoteMark :: rest) : KeyMark false bytes true rest

theorem keyMark {more : Bool} (read : readKeyMark isFirst bytes = .ok (more, rest)) :
    KeyMark isFirst bytes more rest := by
  unfold readKeyMark at read
  split at read
  case h_1 => cases read
  case h_2 b tail next =>
    split at read
    case isTrue isEnd =>
      cases read
      subst isEnd
      exact .ended next
    case isFalse =>
      split at read
      case isTrue isFirst =>
        subst isFirst
        split at read
        case isFalse => cases read
        case isTrue quote =>
          cases read
          exact .first (quote ▸ next)
      case isFalse later =>
        rw [Bool.not_eq_true] at later
        subst later
        split at read
        case isFalse => cases read
        case isTrue isComma =>
          split at read
          case h_1 => cases read
          case h_2 c after next' =>
            split at read
            case isTrue quote =>
              cases read
              exact .later (isComma ▸ next) (quote ▸ next')
            case isFalse => split at read <;> cases read

theorem skipKey_of_read {next name : List UInt8} {characters : List Char} {after : List UInt8}
    (visible : skipBlanks bytes = Json.quoteMark :: next)
    (read : Json.readString next = .ok (characters, name))
    (found : Json.readColon name = .ok after) : skipKey .object bytes = .ok after := by
  rw [skipKey, visible]
  simp only [Json.skipString_of_readString read, found]
  rfl

/-- How the members were read: there was an end, or a member whose value could be passed over. -/
inductive MembersRead (isFirst : Bool) (draft : Draft) (bytes : List UInt8) :
    Draft → List UInt8 → Prop where
  | ended {rest : List UInt8} (mark : readKeyMark isFirst bytes = .ok (false, rest)) :
      MembersRead isFirst draft bytes draft rest
  | member {next name after next' rest : List UInt8} {characters : List Char} {draft₁ draft' : Draft}
      (mark : readKeyMark isFirst bytes = .ok (true, next))
      (read : Json.readString next = .ok (characters, name))
      (found : Json.readColon name = .ok after)
      (passed : ∀ around, skipFrom false around after = skipFrom true around next')
      (shorter : next'.length < bytes.length)
      (others : readMembers false draft₁ next' = .ok (draft', rest)) :
      MembersRead isFirst draft bytes draft' rest

theorem membersRead (read : readMembers isFirst draft bytes = .ok (draft', rest)) :
    MembersRead isFirst draft bytes draft' rest := by
  rw [readMembers] at read
  split at read
  case h_1 => cases read
  case h_2 mark =>
    cases read
    exact .ended mark
  case h_3 next mark =>
    have short := readKeyMark_length mark
    split at read
    case h_1 => cases read
    case h_2 characters name isString =>
      have shortName := Json.readString_length isString
      split at read
      case h_1 =>
        split at read
        case h_1 => cases read
        case h_2 after found =>
          have shortAfter := Json.readColon_length found
          split at read
          case h_1 => cases read
          case h_2 skipped =>
            have shortNext := Json.skipValue_length skipped
            exact .member mark isString found (Json.skipFrom_append skipped) (by omega) read
      case h_2 field known =>
        split at read
        case isTrue => cases read
        case isFalse =>
          split at read
          case h_1 => cases read
          case h_2 after found =>
            have shortAfter := Json.readColon_length found
            split at read
            case h_1 => cases read
            case h_2 taken =>
              have shortNext := Draft.read_length taken
              exact .member mark isString found (skipFrom_of_draftRead taken) (by omega) read

theorem skipFrom_of_readMembers (read : readMembers isFirst draft bytes = .ok (draft', rest))
    (outer : List Bracket) :
    match isFirst with
    | false => skipFrom true (.object :: outer) bytes = skipFrom true outer (stopInObject rest)
    | true =>
        ∃ closed next, skipOpening .object bytes = .ok (closed, next) ∧
          skipFrom closed (if closed then outer else .object :: outer) next =
            skipFrom true outer (stopInObject rest) := by
  induction size : bytes.length using Nat.strongRecOn generalizing isFirst draft bytes with
  | ind n induction =>
    cases membersRead read with
    | ended mark =>
        cases keyMark mark with
        | @ended _ _ tail visible =>
            have stop : stopInObject (Json.closeObject :: tail) = tail := rfl
            rw [stop]
            cases isFirst with
            | false =>
                simp only
                rw [Json.skipFrom_ended, visible]
                rfl
            | true =>
                refine ⟨true, tail, ?_, rfl⟩
                rw [skipOpening, visible]
                rfl
    | member mark isString found passed shorter others =>
        have goesOn := induction _ (size ▸ shorter) others rfl
        simp only at goesOn
        cases keyMark mark with
        | later visible visible' =>
            have key := skipKey_of_read visible' isString found
            simp only
            rw [Json.skipFrom_ended, visible]
            simp only [key]
            exact (passed _).trans goesOn
        | first visible =>
            have visible' : skipBlanks (skipBlanks bytes) = skipBlanks bytes := by
              rw [visible, Json.skipBlanks_cons rfl]
            have key := skipKey_of_read (visible'.trans visible) isString found
            refine ⟨false, _, ?_, (passed _).trans goesOn⟩
            rw [skipOpening, visible]
            rw [visible] at key
            simp only [key]
            rfl

/-! The elements of a list. -/

inductive Separator : Bool → List UInt8 → Bool → List UInt8 → Prop where
  | ended {isFirst : Bool} {bytes tail : List UInt8}
      (visible : skipBlanks bytes = Json.closeList :: tail) :
      Separator isFirst bytes false (Json.closeList :: tail)
  | first {bytes tail : List UInt8} {b : UInt8} (visible : skipBlanks bytes = b :: tail)
      (noEnd : b ≠ Json.closeList) : Separator true bytes true (b :: tail)
  | later {bytes tail : List UInt8} (visible : skipBlanks bytes = Json.comma :: tail) :
      Separator false bytes true (skipBlanks tail)

theorem separator {more : Bool} (read : readSeparator isFirst bytes = .ok (more, rest)) :
    Separator isFirst bytes more rest := by
  unfold readSeparator at read
  split at read
  case h_1 => cases read
  case h_2 b tail next =>
    split at read
    case isTrue isEnd =>
      cases read
      subst isEnd
      exact .ended next
    case isFalse noEnd =>
      split at read
      case isTrue isFirst =>
        subst isFirst
        cases read
        exact .first next noEnd
      case isFalse later =>
        rw [Bool.not_eq_true] at later
        subst later
        split at read
        case isFalse => cases read
        case isTrue isComma =>
          split at read
          case h_1 => cases read
          case h_2 c after next' =>
            split at read
            case isTrue => cases read
            case isFalse =>
              cases read
              exact next' ▸ .later (isComma ▸ next)

theorem eq_of_closeElements (closed : closeElements bytes = .ok rest) :
    skipBlanks bytes = Json.closeList :: rest := by
  unfold closeElements at closed
  split at closed
  case h_1 => cases closed
  case h_2 b tail next =>
    split at closed
    case isTrue isEnd =>
      cases closed
      rw [next, isEnd]
    case isFalse =>
      split at closed
      case isTrue => split at closed <;> cases closed
      case isFalse => cases closed

theorem skipFrom_of_closeElements (closed : closeElements bytes = .ok rest) (outer : List Bracket) :
    skipFrom true (.list :: outer) bytes = skipFrom true outer rest := by
  rw [Json.skipFrom_ended, eq_of_closeElements closed]
  rfl

theorem skipFrom_of_readElements {fields : List Field} {last : List UInt8}
    (read : readElements isFirst draft bytes fields = .ok (draft', rest))
    (closed : closeElements rest = .ok last) (outer : List Bracket) :
    match isFirst with
    | false => skipFrom true (.list :: outer) bytes = skipFrom true outer last
    | true => fields ≠ [] →
        ∃ closed next, skipOpening .list bytes = .ok (closed, next) ∧
          skipFrom closed (if closed then outer else .list :: outer) next =
            skipFrom true outer last := by
  induction fields generalizing isFirst draft bytes with
  | nil =>
      cases read
      cases isFirst with
      | false => exact skipFrom_of_closeElements closed outer
      | true => exact fun filled => absurd rfl filled
  | cons field fields induction =>
      rw [readElements] at read
      split at read
      case h_1 => cases read
      case h_2 mark =>
        cases read
        cases separator mark with
        | ended visible =>
            have same := eq_of_closeElements closed
            rw [Json.skipBlanks_cons rfl] at same
            cases same
            cases isFirst with
            | false =>
                simp only
                rw [Json.skipFrom_ended, visible]
                rfl
            | true =>
                refine fun _ => ⟨true, last, ?_, rfl⟩
                rw [skipOpening, visible]
                rfl
      case h_3 next mark =>
        split at read
        case h_1 => cases read
        case h_2 draft₁ next' taken =>
          have goesOn := induction read
          simp only at goesOn
          have passed := skipFrom_of_draftRead taken (.list :: outer)
          cases separator mark with
          | later visible =>
              simp only
              rw [Json.skipFrom_ended, visible, ← goesOn, ← passed, skipFrom_skipBlanks]
              rfl
          | first visible noEnd =>
              refine fun _ => ⟨false, _, ?_, passed.trans goesOn⟩
              rw [skipOpening, visible]
              simp only [Bracket.closing, noEnd, if_false, skipKey]

/-! The whole. -/

/-- An envelope that is read could be passed over. It stands in a list or an object. -/
theorem skipValue_of_read {e : Envelope} (done : read bytes = .ok (e, rest)) :
    Json.skipValue bytes = .ok rest ∧
      ∃ b tail, skipBlanks bytes = b :: tail ∧ (b = Json.openObject ∨ b = Json.openList) := by
  unfold read at done
  split at done
  case h_1 => cases done
  case h_2 b tail visible =>
    have starts := Json.skipFrom_value [] bytes
    rw [visible] at starts
    split at done
    case isTrue isObject =>
      subst isObject
      split at done
      case h_1 => cases done
      case h_2 members =>
        cases done
        obtain ⟨closed, next, opened, passed⟩ := skipFrom_of_readMembers members []
        have known : Bracket.ofByte? Json.openObject = some .object := rfl
        simp only [known, opened] at starts
        exact ⟨(starts.trans passed).trans (Json.skipFrom_done _), _, _, visible, .inl rfl⟩
    case isFalse =>
      split at done
      case isFalse => cases done
      case isTrue isList =>
        subst isList
        split at done
        case h_1 => cases done
        case h_2 elements =>
          split at done
          case h_1 => cases done
          case h_2 closed =>
            cases done
            obtain ⟨closed, next, opened, passed⟩ :=
              skipFrom_of_readElements elements closed [] (by decide)
            have known : Bracket.ofByte? Json.openList = some .list := rfl
            simp only [known, opened] at starts
            exact ⟨(starts.trans passed).trans (Json.skipFrom_done _), _, _, visible, .inr rfl⟩

end

end Courier.Envelope
