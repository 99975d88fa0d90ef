import Courier.Proofs.Address.Quads

/-! Where the tag of a publisher comes from: from within its address. Where the address has no quad, the
host has none either, so that a tag is a quad only if the address has one. -/

namespace Courier.Address

variable {address : List Char}

theorem authority_within (address : List Char) : authority address <:+: address := by
  unfold authority
  split
  case h_1 scheme rest cut =>
      have trails : rest <:+ address :=
        ⟨scheme ++ [':', '/', '/'], (Text.eq_append_of_cutFirst? cut).symm⟩
      exact (List.takeWhile_prefix _).isInfix.trans trails.isInfix
  case h_2 => exact (List.takeWhile_prefix _).isInfix

theorem host_within (address : List Char) : host address <:+: address := by
  have within := authority_within address
  unfold host
  split
  case h_1 before port cut =>
      have leads : before <+: authority address :=
        ⟨':' :: port, (Text.eq_append_of_cutLast? cut).1.symm⟩
      split
      · exact leads.isInfix.trans within
      · exact within
  case h_2 => exact within

theorem findQuad_of_infix {piece : List Char} (within : piece <:+: address)
    (missing : findQuad address = none) : findQuad piece = none := by
  rw [findQuad_eq_none_iff] at missing ⊢
  exact fun part inside => missing part (inside.trans within)

theorem isQuad_tag_iff : IsQuad (tag address) ↔ (findQuad address).isSome = true := by
  cases found : findQuad address with
  | some quad =>
      have same : tag address = quad := by rw [tag, found, Option.getD_some]
      rw [same]
      exact iff_of_true (isQuad_of_findQuad found) rfl
  | none =>
      have same : tag address = host address := by rw [tag, found, Option.getD_none]
      have missing := findQuad_of_infix (host_within address) found
      rw [same]
      exact iff_of_false (findQuad_eq_none_iff.mp missing _ List.infix_rfl) Bool.false_ne_true

theorem findQuad_tag_of_not_isQuad (named : ¬IsQuad (tag address)) :
    findQuad (tag address) = none := by
  rw [isQuad_tag_iff, Option.not_isSome_iff_eq_none] at named
  rw [tag, named, Option.getD_none]
  exact findQuad_of_infix (host_within address) named

end Courier.Address
