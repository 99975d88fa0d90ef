import Courier.Proofs.Envelope.Members
import Courier.Proofs.Text.Base64

/-! The envelope that the members of an object describe. Each field counts by itself, so that the order
of the members does not matter, nor what others there are. -/

namespace Courier.Envelope

open Json (Value)

def values (members : List (List Char × Value)) (field : Field) : List Value :=
  (members.filter (·.1 = field.name.toList)).map (·.2)

def TextIs (values : List Value) (text : String) : Prop :=
  values = [] ∧ text = "" ∨ values = [.text (some text.toList)]

def BytesAre (values : List Value) (bytes : List UInt8) : Prop :=
  (values = [] ∨ values = [.null]) ∧ bytes = [] ∨
    ∃ text, values = [.text (some text)] ∧ Text.encode text = Base64.encode bytes

structure Describes (members : List (List Char × Value)) (e : Envelope) : Prop where
  messageId : TextIs (values members .messageId) e.messageId
  topic : TextIs (values members .topic) e.topic
  message : BytesAre (values members .message) e.message
  sourceNodeId : TextIs (values members .sourceNodeId) e.sourceNodeId

theorem describes_congr {members members' : List (List Char × Value)} {e : Envelope}
    (same : ∀ field, values members' field = values members field) :
    Describes members' e ↔ Describes members e := by
  constructor
  · rintro ⟨messageId, topic, message, sourceNodeId⟩
    exact ⟨same _ ▸ messageId, same _ ▸ topic, same _ ▸ message, same _ ▸ sourceNodeId⟩
  · rintro ⟨messageId, topic, message, sourceNodeId⟩
    exact ⟨same _ ▸ messageId, same _ ▸ topic, same _ ▸ message, same _ ▸ sourceNodeId⟩

/-- A value that a field may have. -/
def Fits (field : Field) (value : Value) : Prop :=
  match field with
  | .message =>
      value = .null ∨
        ∃ text bytes, value = .text (some text) ∧ Text.encode text = Base64.encode bytes
  | _ => ∃ text, value = .text (some text)

theorem ofName?_eq_some_iff {name : List Char} {field : Field} :
    Field.ofName? name = some field ↔ name = field.name.toList := by
  constructor
  · intro found
    have named := List.find?_some found
    exact (of_decide_eq_true named).symm
  · rintro rfl
    cases field <;> rfl

/-! What a draft knows of a field. -/

inductive Payload where
  | text (text : String)
  | bytes (bytes : List UInt8)

def Draft.get? (draft : Draft) : Field → Option Payload
  | .messageId => draft.messageId.map .text
  | .topic => draft.topic.map .text
  | .message => draft.message.map .bytes
  | .sourceNodeId => draft.sourceNodeId.map .text

def payload? (field : Field) (value : Value) : Option Payload :=
  match field with
  | .message => value.message?.map .bytes
  | _ => value.text?.map fun text => .text (String.ofList text)

theorem Draft.has_eq (draft : Draft) (field : Field) :
    draft.has field = (draft.get? field).isSome := by
  cases field <;> simp [Draft.has, Draft.get?]

theorem Draft.ext {draft draft' : Draft} (same : ∀ field, draft.get? field = draft'.get? field) :
    draft = draft' := by
  have text {x x' : Option String} (same : x.map Payload.text = x'.map .text) : x = x' :=
    Option.map_injective (fun _ _ => Payload.text.inj) same
  have bytes {x x' : Option (List UInt8)} (same : x.map Payload.bytes = x'.map .bytes) : x = x' :=
    Option.map_injective (fun _ _ => Payload.bytes.inj) same
  obtain ⟨messageId, topic, message, sourceNodeId⟩ := draft
  obtain ⟨messageId', topic', message', sourceNodeId'⟩ := draft'
  rw [Draft.mk.injEq]
  exact ⟨text (same .messageId), text (same .topic), bytes (same .message),
    text (same .sourceNodeId)⟩

theorem Draft.get?_of_put? {draft draft' : Draft} {field : Field} {value : Value}
    (taken : draft.put? field value = some draft') :
    (∃ payload, payload? field value = some payload ∧ draft'.get? field = some payload) ∧
      ∀ other, other ≠ field → draft'.get? other = draft.get? other := by
  cases field
  all_goals
    obtain ⟨found, read, rfl⟩ := Option.map_eq_some_iff.mp taken
    refine ⟨⟨_, ?_, rfl⟩, fun other differs => ?_⟩
    · simp only [payload?, read]
      rfl
    · cases other <;> first | rfl | exact absurd rfl differs

theorem Draft.payload?_of_put? {draft : Draft} {field : Field} {value : Value}
    (refused : draft.put? field value = none) : payload? field value = none := by
  cases field <;> simpa [Draft.put?, payload?] using refused

/-- What is known of a field when its values were taken, and was known before. -/
inductive Settles (field : Field) : List Value → Option Payload → Option Payload → Prop where
  | kept {known : Option Payload} : Settles field [] known known
  | given {value : Value} {payload : Payload} (fits : payload? field value = some payload) :
      Settles field [value] none (some payload)

theorem settles_nil {field : Field} {before after : Option Payload} :
    Settles field [] before after ↔ after = before := by
  constructor
  · rintro ⟨⟩
    rfl
  · rintro rfl
    exact .kept

theorem settles_cons {field : Field} {value : Value} {others : List Value}
    {before after : Option Payload} :
    Settles field (value :: others) before after ↔
      before = none ∧ ∃ payload, payload? field value = some payload ∧
        Settles field others (some payload) after := by
  constructor
  · rintro ⟨⟩
    exact ⟨rfl, _, ‹_›, .kept⟩
  · rintro ⟨rfl, payload, fits, settled⟩
    cases settled
    exact .given fits

def named (members : List (List Char × Value)) : List (Option (List Char) × Value) :=
  members.map fun (name, value) => (some name, value)

section

variable {members : List (List Char × Value)} {name : List Char} {value : Value}

theorem values_cons_of_ne {field : Field} (differs : name ≠ field.name.toList) :
    values ((name, value) :: members) field = values members field := by
  rw [values, List.filter_cons_of_neg (by simpa using differs), values]

theorem values_cons_self (field : Field) :
    values ((field.name.toList, value) :: members) field = value :: values members field := by
  rw [values, List.filter_cons_of_pos (by simp), List.map_cons, values]

theorem foldlM_accept (draft draft' : Draft) :
    (named members).foldlM Draft.accept draft = some draft' ↔
      ∀ field, Settles field (values members field) (draft.get? field) (draft'.get? field) := by
  induction members generalizing draft with
  | nil =>
      simp only [named, List.map_nil, List.foldlM_nil, values, List.filter_nil, settles_nil]
      constructor
      · rintro ⟨⟩ field
        rfl
      · intro same
        rw [Draft.ext same]
        rfl
  | cons member members induction =>
      obtain ⟨name, value⟩ := member
      rw [named, List.map_cons, List.foldlM_cons, ← named]
      change (draft.accept (some name, value)).bind _ = _ ↔ _
      simp only [Draft.accept, Option.bind_some]
      cases known : Field.ofName? name with
      | none =>
          have differs (field : Field) : name ≠ field.name.toList := fun same => by
            rw [ofName?_eq_some_iff.mpr same] at known
            cases known
          simp only [Option.bind_some, values_cons_of_ne (differs _)]
          exact induction draft
      | some field =>
          obtain rfl := ofName?_eq_some_iff.mp known
          simp only [draft.has_eq]
          cases before : draft.get? field with
          | some payload =>
              -- The field is known already, and a second value for it is refused.
              refine ⟨nofun, fun settled => ?_⟩
              have again := settled field
              rw [values_cons_self, settles_cons, before] at again
              cases again.1
          | none =>
              cases taken : draft.put? field value with
              | none =>
                  refine ⟨nofun, fun settled => ?_⟩
                  have given := settled field
                  rw [values_cons_self, settles_cons, Draft.payload?_of_put? taken] at given
                  obtain ⟨-, _, fits, -⟩ := given
                  cases fits
              | some draft₁ =>
                  obtain ⟨⟨payload, fits, stored⟩, others⟩ := Draft.get?_of_put? taken
                  refine (induction draft₁).trans (forall_congr' fun other => ?_)
                  by_cases same : other = field
                  · subst same
                    simp [values_cons_self, settles_cons, before, fits, stored]
                  · have differs : field.name.toList ≠ other.name.toList := fun names => by
                      rw [ofName?_eq_some_iff.mpr names] at known
                      exact same (Option.some.inj known)
                    rw [values_cons_of_ne differs, others other same]

end

/-! What the draft makes of an envelope. -/

theorem textIs_iff (field : Field) (isText : field ≠ .message) {values : List Value} {text : String} :
    TextIs values text ↔
      ∃ known : Option String, Settles field values none (known.map .text) ∧ known.getD "" = text := by
  have payload (value : Value) :
      payload? field value = value.text?.map fun text => .text (String.ofList text) := by
    cases field <;> first | rfl | exact absurd rfl isText
  constructor
  · rintro (⟨rfl, rfl⟩ | rfl)
    · exact ⟨none, .kept, rfl⟩
    · refine ⟨some text, .given ?_, rfl⟩
      simp [payload, Value.text?]
  · rintro ⟨known, settled, rfl⟩
    generalize same : known.map Payload.text = after at settled
    cases settled with
    | kept =>
        rw [Option.map_eq_none_iff] at same
        exact .inl ⟨rfl, by rw [same]; rfl⟩
    | @given value _ fits =>
        obtain ⟨text, rfl, rfl⟩ := Option.map_eq_some_iff.mp same
        rw [payload, Option.map_eq_some_iff] at fits
        obtain ⟨characters, isText, same⟩ := fits
        cases value with
        | text text? =>
            rw [Value.text?] at isText
            cases same
            exact .inr (by simp [isText])
        | _ => cases isText

theorem bytesAre_iff {values : List Value} {bytes : List UInt8} :
    BytesAre values bytes ↔
      ∃ known : Option (List UInt8), Settles .message values none (known.map .bytes) ∧
        known.getD [] = bytes := by
  constructor
  · rintro (⟨rfl | rfl, rfl⟩ | ⟨text, rfl, same⟩)
    · exact ⟨none, .kept, rfl⟩
    · exact ⟨some [], .given rfl, rfl⟩
    · refine ⟨some bytes, .given ?_, rfl⟩
      rw [payload?, Value.message?, Option.bind_some, same, Base64.decode_encode]
      rfl
  · rintro ⟨known, settled, rfl⟩
    generalize same : known.map Payload.bytes = after at settled
    cases settled with
    | kept =>
        rw [Option.map_eq_none_iff] at same
        exact .inl ⟨.inl rfl, by rw [same]; rfl⟩
    | @given value _ fits =>
        obtain ⟨bytes, rfl, rfl⟩ := Option.map_eq_some_iff.mp same
        obtain ⟨message, read, same⟩ := Option.map_eq_some_iff.mp fits
        cases same
        cases value with
        | null =>
            cases read
            exact .inl ⟨.inr rfl, rfl⟩
        | text text? =>
            obtain ⟨text, rfl, decoded⟩ := Option.bind_eq_some_iff.mp read
            exact .inr ⟨text, rfl, Base64.decode_eq_ok_iff.mp (toOption_eq_some_iff.mp decoded)⟩
        | _ => cases read

theorem finish_foldlM_iff {members : List (List Char × Value)} {e : Envelope} :
    ((named members).foldlM Draft.accept .empty).map Draft.finish = some e ↔ Describes members e := by
  constructor
  · intro read
    obtain ⟨draft, folded, rfl⟩ := Option.map_eq_some_iff.mp read
    have settled := (foldlM_accept .empty draft).mp folded
    exact ⟨(textIs_iff _ (by decide)).mpr ⟨_, settled .messageId, rfl⟩,
      (textIs_iff _ (by decide)).mpr ⟨_, settled .topic, rfl⟩,
      bytesAre_iff.mpr ⟨_, settled .message, rfl⟩,
      (textIs_iff _ (by decide)).mpr ⟨_, settled .sourceNodeId, rfl⟩⟩
  · rintro ⟨messageId, topic, message, sourceNodeId⟩
    obtain ⟨messageId, settledId, sameId⟩ := (textIs_iff .messageId (by decide)).mp messageId
    obtain ⟨topic, settledTopic, sameTopic⟩ := (textIs_iff .topic (by decide)).mp topic
    obtain ⟨message, settledMessage, sameMessage⟩ := bytesAre_iff.mp message
    obtain ⟨node, settledNode, sameNode⟩ :=
      (textIs_iff .sourceNodeId (by decide)).mp sourceNodeId
    have folded := (foldlM_accept .empty ⟨messageId, topic, message, node⟩).mpr fun field => by
      cases field with
      | messageId => exact settledId
      | topic => exact settledTopic
      | message => exact settledMessage
      | sourceNodeId => exact settledNode
    rw [folded, Option.map_some, Draft.finish, sameId, sameTopic, sameMessage, sameNode]

theorem exists_textIs_iff {values : List Value} :
    (∃ text, TextIs values text) ↔
      values = [] ∨ ∃ value, values = [value] ∧ ∃ text, value = .text (some text) := by
  constructor
  · rintro ⟨text, ⟨rfl, -⟩ | rfl⟩
    · exact .inl rfl
    · exact .inr ⟨_, rfl, _, rfl⟩
  · rintro (rfl | ⟨_, rfl, text, rfl⟩)
    · exact ⟨"", .inl ⟨rfl, rfl⟩⟩
    · exact ⟨String.ofList text, .inr (by rw [String.toList_ofList])⟩

theorem exists_bytesAre_iff {values : List Value} :
    (∃ bytes, BytesAre values bytes) ↔
      values = [] ∨ ∃ value, values = [value] ∧ Fits .message value := by
  constructor
  · rintro ⟨bytes, ⟨rfl | rfl, -⟩ | ⟨text, rfl, same⟩⟩
    · exact .inl rfl
    · exact .inr ⟨_, rfl, .inl rfl⟩
    · exact .inr ⟨_, rfl, .inr ⟨text, bytes, rfl, same⟩⟩
  · rintro (rfl | ⟨value, rfl, rfl | ⟨text, bytes, rfl, same⟩⟩)
    · exact ⟨[], .inl ⟨.inl rfl, rfl⟩⟩
    · exact ⟨[], .inl ⟨.inr rfl, rfl⟩⟩
    · exact ⟨bytes, .inr ⟨text, rfl, same⟩⟩

theorem exists_describes_iff {members : List (List Char × Value)} :
    (∃ e, Describes members e) ↔
      ∀ field, values members field = [] ∨
        ∃ value, values members field = [value] ∧ Fits field value := by
  constructor
  · rintro ⟨e, messageId, topic, message, sourceNodeId⟩ field
    cases field with
    | messageId => exact exists_textIs_iff.mp ⟨_, messageId⟩
    | topic => exact exists_textIs_iff.mp ⟨_, topic⟩
    | message => exact exists_bytesAre_iff.mp ⟨_, message⟩
    | sourceNodeId => exact exists_textIs_iff.mp ⟨_, sourceNodeId⟩
  · intro fits
    obtain ⟨messageId, hasId⟩ := exists_textIs_iff.mpr (fits .messageId)
    obtain ⟨topic, hasTopic⟩ := exists_textIs_iff.mpr (fits .topic)
    obtain ⟨message, hasMessage⟩ := exists_bytesAre_iff.mpr (fits .message)
    obtain ⟨node, hasNode⟩ := exists_textIs_iff.mpr (fits .sourceNodeId)
    exact ⟨⟨messageId, topic, message, node⟩, hasId, hasTopic, hasMessage, hasNode⟩

end Courier.Envelope
