import Courier.Address
import Mathlib.Data.List.Infix

/-! How an address is laid out: a scheme, a host, a port and a rest, of which only the host is
always there. Every address is laid out in just one way, and the tag of an address without a quad is
the host of that layout. -/

namespace Courier.Address

def schemeMark : List Char := [':', '/', '/']

def ledBy (separator : Char) (part : Option (List Char)) : List Char :=
  part.elim [] (separator :: ·)

def marked (scheme : Option (List Char)) : List Char :=
  scheme.elim [] (· ++ schemeMark)

def IsPort (text : List Char) : Prop := ∀ c ∈ text, c.isDigit = true

/-- There is more than digits behind the last colon, if there is a colon. -/
def IsPortless (text : List Char) : Prop :=
  ∀ before after, text = before ++ ':' :: after → ':' ∉ after → ∃ c ∈ after, c.isDigit = false

@[ext]
structure Layout where
  scheme : Option (List Char)
  host : List Char
  port : Option (List Char)
  rest : Option (List Char)

namespace Layout

def authority (layout : Layout) : List Char :=
  layout.host ++ ledBy ':' layout.port

def body (layout : Layout) : List Char :=
  layout.authority ++ ledBy '/' layout.rest

def text (layout : Layout) : List Char :=
  marked layout.scheme ++ layout.body

/-- No part has in it what ends that part, and a part that is missing does not seem to be there. -/
structure IsPlain (layout : Layout) : Prop where
  scheme : ∀ scheme, layout.scheme = some scheme → ¬schemeMark <:+: scheme
  host : '/' ∉ layout.host
  port : ∀ port, layout.port = some port → IsPort port
  schemeless : layout.scheme = none → ¬schemeMark <:+: layout.text
  portless : layout.port = none → IsPortless layout.host

end Layout

section Parts

variable {separator : Char} {text before after port : List Char}

theorem ledBy_injective (separator : Char) : Function.Injective (ledBy separator) := by
  intro first second same
  cases first <;> cases second <;> simp_all [ledBy]

theorem isUnbordered_schemeMark : Text.IsUnbordered schemeMark := by
  have borders : ∀ piece ∈ schemeMark.inits,
      piece <:+ schemeMark → piece = [] ∨ piece = schemeMark := by
    decide
  exact fun piece starts => borders piece ((List.mem_inits piece schemeMark).mpr starts)

theorem IsPort.not_mem {c : Char} (digits : IsPort port) (other : c.isDigit = false) : c ∉ port :=
  fun member => absurd (digits c member) (Bool.eq_false_iff.mp other)

theorem isPort_iff : IsPort port ↔ port.all Char.isDigit = true :=
  List.all_eq_true.symm

theorem isPortless_of_not_mem (missing : ':' ∉ text) : IsPortless text := by
  rintro before after rfl
  exact absurd (List.mem_append_right before List.mem_cons_self) missing

theorem isPortless_append_iff (missing : ':' ∉ after) :
    IsPortless (before ++ ':' :: after) ↔ ¬IsPort after := by
  have other : (∃ c ∈ after, c.isDigit = false) ↔ ¬IsPort after := by
    simp [IsPort]
  rw [← other]
  constructor
  · intro portless
    exact portless before after rfl missing
  · intro other before' after' same missing'
    -- There is one last colon.
    have cut := Text.cutLast?_append missing before
    rw [same, Text.cutLast?_append missing'] at cut
    cases cut
    exact other

theorem takeWhile_ledBy (missing : separator ∉ text) (part : Option (List Char)) :
    (text ++ ledBy separator part).takeWhile (· != separator) = text := by
  have kept : ∀ c ∈ text, (c != separator) = true := by
    intro c member
    exact bne_iff_ne.mpr (ne_of_mem_of_not_mem member missing)
  rw [List.takeWhile_append_of_pos kept]
  cases part <;> simp [ledBy]

theorem exists_scheme (address : List Char) :
    ∃ (scheme : Option (List Char)) (body : List Char),
      address = marked scheme ++ body ∧
        (∀ text, scheme = some text → ¬schemeMark <:+: text) ∧
          (scheme = none → ¬schemeMark <:+: address) := by
  cases cut : Text.cutFirst? schemeMark address with
  | none => exact ⟨none, address, rfl, nofun, fun _ => Text.cutFirst?_eq_none_iff.mp cut⟩
  | some parts =>
      have free := Text.not_infix_of_cutFirst? (by decide) cut
      refine ⟨some parts.1, parts.2, Text.eq_append_of_cutFirst? cut, ?_, nofun⟩
      rintro text ⟨⟩
      exact free

theorem exists_ledBy (separator : Char) (text : List Char) :
    ∃ before part, text = before ++ ledBy separator part ∧ separator ∉ before := by
  cases cut : Text.cutFirst? [separator] text with
  | none =>
      rw [Text.cutFirst?_eq_none_iff, List.singleton_infix_iff] at cut
      exact ⟨text, none, (List.append_nil text).symm, cut⟩
  | some parts =>
      have free := Text.not_infix_of_cutFirst? (List.cons_ne_nil _ _) cut
      rw [List.singleton_infix_iff] at free
      refine ⟨parts.1, some parts.2, ?_, free⟩
      rw [Text.eq_append_of_cutFirst? cut, List.append_assoc]
      rfl

theorem exists_port (text : List Char) :
    ∃ host port, text = host ++ ledBy ':' port ∧ (∀ digits, port = some digits → IsPort digits) ∧
      (port = none → IsPortless host) := by
  cases cut : Text.cutLast? ':' text with
  | none =>
      have portless := isPortless_of_not_mem (Text.cutLast?_eq_none_iff.mp cut)
      exact ⟨text, none, (List.append_nil text).symm, nofun, fun _ => portless⟩
  | some parts =>
      obtain ⟨same, missing⟩ := Text.eq_append_of_cutLast? cut
      by_cases digits : IsPort parts.2
      · refine ⟨parts.1, some parts.2, same, ?_, nofun⟩
        rintro port ⟨⟩
        exact digits
      · refine ⟨text, none, (List.append_nil text).symm, nofun, fun _ => ?_⟩
        rw [same]
        exact (isPortless_append_iff missing).mpr digits

end Parts

namespace Layout

variable {layout layout' : Layout}

section Reading

theorem IsPlain.cutFirst?_text (plain : layout.IsPlain) :
    Text.cutFirst? schemeMark layout.text = layout.scheme.map (·, layout.body) := by
  cases named : layout.scheme with
  | none => exact Text.cutFirst?_eq_none_iff.mpr (plain.schemeless named)
  | some scheme =>
      rw [text, named]
      exact isUnbordered_schemeMark.cutFirst?_append (plain.scheme scheme named) layout.body

theorem IsPlain.slash_not_mem (plain : layout.IsPlain) : '/' ∉ layout.authority := by
  rw [Layout.authority, List.mem_append, not_or]
  refine ⟨plain.host, ?_⟩
  cases led : layout.port with
  | none => exact List.not_mem_nil
  | some port =>
      have digits := plain.port port led
      exact List.not_mem_cons_of_ne_of_not_mem (by decide) (digits.not_mem rfl)

theorem IsPlain.authority_text (plain : layout.IsPlain) :
    Address.authority layout.text = layout.authority := by
  have found : Address.authority layout.text = layout.body.takeWhile (· != '/') := by
    rw [Address.authority, ← schemeMark, plain.cutFirst?_text]
    cases named : layout.scheme with
    | none => simp [text, named, marked]
    | some scheme => rfl
  rw [found]
  exact takeWhile_ledBy plain.slash_not_mem layout.rest

theorem IsPlain.host_text (plain : layout.IsPlain) : Address.host layout.text = layout.host := by
  rw [Address.host, plain.authority_text, Layout.authority]
  cases led : layout.port with
  | some port =>
      have digits := plain.port port led
      rw [ledBy, Option.elim_some, Text.cutLast?_append (digits.not_mem rfl)]
      exact if_pos (isPort_iff.mp digits)
  | none =>
      have portless := plain.portless led
      rw [ledBy, Option.elim_none, List.append_nil]
      cases cut : Text.cutLast? ':' layout.host with
      | none => rfl
      | some parts =>
          obtain ⟨same, missing⟩ := Text.eq_append_of_cutLast? cut
          rw [same, isPortless_append_iff missing, isPort_iff] at portless
          exact if_neg portless

/-- There is more than digits behind the last colon of this host, which is not cut there. -/
example : Address.host "dns://[fe80::b]/x:7".toList = "[fe80::b]".toList := by decide

end Reading

/-- An address tells all the parts that it was put together from. -/
theorem IsPlain.eq_of_text_eq (plain : layout.IsPlain) (plain' : layout'.IsPlain)
    (same : layout.text = layout'.text) : layout = layout' := by
  have scheme : layout.scheme = layout'.scheme := by
    have cut := plain.cutFirst?_text
    rw [same, plain'.cutFirst?_text] at cut
    have first := congrArg (Option.map Prod.fst) cut
    simpa [Function.comp_def] using first.symm
  have body : layout.body = layout'.body := by
    rw [text, text, scheme] at same
    exact List.append_cancel_left same
  have authority : layout.authority = layout'.authority := by
    rw [← plain.authority_text, same, plain'.authority_text]
  have host : layout.host = layout'.host := by
    rw [← plain.host_text, same, plain'.host_text]
  have rest : layout.rest = layout'.rest := by
    rw [Layout.body, Layout.body, authority] at body
    exact ledBy_injective '/' (List.append_cancel_left body)
  have port : layout.port = layout'.port := by
    rw [Layout.authority, Layout.authority, host] at authority
    exact ledBy_injective ':' (List.append_cancel_left authority)
  exact Layout.ext scheme host port rest

theorem exists_isPlain (address : List Char) :
    ∃ layout : Layout, layout.IsPlain ∧ layout.text = address := by
  obtain ⟨scheme, body, whole, free, unmarked⟩ := exists_scheme address
  obtain ⟨authority, rest, cut, slashless⟩ := exists_ledBy '/' body
  obtain ⟨host, port, split, digits, portless⟩ := exists_port authority
  have same : Layout.text ⟨scheme, host, port, rest⟩ = address := by
    rw [whole, cut, split]
    rfl
  refine ⟨⟨scheme, host, port, rest⟩, ⟨free, ?_, digits, ?_, portless⟩, same⟩
  · exact fun member => slashless (split ▸ List.mem_append_left _ member)
  · rw [same]
    exact unmarked

theorem existsUnique_isPlain (address : List Char) :
    ∃! layout : Layout, layout.IsPlain ∧ layout.text = address := by
  obtain ⟨layout, plain, same⟩ := exists_isPlain address
  refine ⟨layout, ⟨plain, same⟩, ?_⟩
  rintro layout' ⟨plain', same'⟩
  exact plain'.eq_of_text_eq plain (same'.trans same.symm)

end Layout

/-- A node signs by the quad in its address, or else by the host of the one layout that its address
has. -/
theorem tag_tells_host (address : List Char) :
    (∀ quad, findQuad address = some quad → tag address = quad) ∧
      (∃! layout : Layout, layout.IsPlain ∧ layout.text = address) ∧
        (findQuad address = none → ∀ layout : Layout, layout.IsPlain → layout.text = address →
          tag address = layout.host) := by
  refine ⟨?_, Layout.existsUnique_isPlain address, ?_⟩
  · intro quad found
    rw [tag, found, Option.getD_some]
  · rintro missing layout plain rfl
    rw [tag, missing, Option.getD_none, plain.host_text]

private def bracketed : Layout where
  scheme := some "grpc".toList
  host := "[fe80::a-1]".toList
  port := some "33212".toList
  rest := some "x:7://y".toList

theorem tag_tells_host_where_bracketed :
    findQuad "grpc://[fe80::a-1]:33212/x:7://y".toList = none ∧ bracketed.IsPlain ∧
      bracketed.text = "grpc://[fe80::a-1]:33212/x:7://y".toList ∧
        tag "grpc://[fe80::a-1]:33212/x:7://y".toList = "[fe80::a-1]".toList ∧
          findQuad "dns:///10.0.0.9:33212".toList = some "10.0.0.9".toList ∧
            tag "dns:///10.0.0.9:33212".toList = "10.0.0.9".toList := by
  have missing : findQuad "grpc://[fe80::a-1]:33212/x:7://y".toList = none := by decide
  have found : findQuad "dns:///10.0.0.9:33212".toList = some "10.0.0.9".toList := by decide
  have plain : bracketed.IsPlain := by
    refine ⟨?_, by decide, ?_, nofun, nofun⟩
    · rintro scheme ⟨⟩
      decide
    · rintro port ⟨⟩
      exact isPort_iff.mpr rfl
  have told := (tag_tells_host "grpc://[fe80::a-1]:33212/x:7://y".toList).2.2 missing
  have quad := (tag_tells_host "dns:///10.0.0.9:33212".toList).1 _ found
  exact ⟨missing, plain, rfl, told bracketed plain rfl, found, quad⟩

end Courier.Address
