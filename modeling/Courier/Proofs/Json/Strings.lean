import Courier.Proofs.Json.Grammar
import Courier.Proofs.Text.Utf8

/-! Strings, read and passed over. Reading gives the text that the parts of a string spell, and fails
where there is none. Passing over fails only where there is no string. -/

namespace Courier.Json

theorem isPlain_iff {b : UInt8} :
    isPlain b = true ↔ b.toNat ≠ 34 ∧ b.toNat ≠ 92 ∧ 32 ≤ b.toNat := by
  simp [isPlain, ← UInt8.toNat_inj, UInt8.le_iff_toNat_le, and_assoc, quoteMark, escapeMark]

theorem isPlainChar_iff {c : Char} :
    isPlainChar c = true ↔ c.toNat ≠ 34 ∧ c.toNat ≠ 92 ∧ 32 ≤ c.toNat := by
  simp [isPlainChar, ← Char.toNat_inj, and_assoc]

theorem isPlain_of_mem_encodeChar {c : Char} {b : UInt8} (plain : isPlainChar c = true)
    (member : b ∈ Text.encodeChar c) : isPlain b = true := by
  rw [isPlainChar_iff] at plain
  rw [isPlain_iff]
  by_cases ascii : c.toNat < 0x80
  · rw [Text.encodeChar_of_lt ascii, List.mem_singleton] at member
    rw [member, Text.toNat_byte (by omega)]
    exact plain
  · have large := Text.le_of_mem_encodeChar (Nat.not_lt.mp ascii) member
    omega

theorem encodeChar_of_not_plain {c : Char} (special : isPlainChar c = false) :
    ∃ b : UInt8, Text.encodeChar c = [b] ∧ isPlain b = false := by
  rw [← Bool.not_eq_true, isPlainChar_iff] at special
  refine ⟨c.toNat.toUInt8, Text.encodeChar_of_lt (by omega), ?_⟩
  rw [← Bool.not_eq_true, isPlain_iff, Text.toNat_byte (by omega)]
  exact special

theorem takeWhile_encode (text : List Char) :
    (Text.encode text).takeWhile isPlain = Text.encode (text.takeWhile isPlainChar) ∧
      (Text.encode text).dropWhile isPlain = Text.encode (text.dropWhile isPlainChar) := by
  induction text with
  | nil => exact ⟨rfl, rfl⟩
  | cons c text induction =>
      rw [Text.encode_cons]
      cases plain : isPlainChar c with
      | true =>
          have all : ∀ b ∈ Text.encodeChar c, isPlain b = true :=
            fun b => isPlain_of_mem_encodeChar plain
          rw [List.takeWhile_append_of_pos all, List.dropWhile_append_of_pos all,
            List.takeWhile_cons_of_pos plain, List.dropWhile_cons_of_pos plain, induction.1, induction.2]
          exact ⟨rfl, rfl⟩
      | false =>
          obtain ⟨b, same, special⟩ := encodeChar_of_not_plain plain
          rw [same, List.takeWhile_cons_of_neg (by rw [plain]; decide),
            List.dropWhile_cons_of_neg (by rw [plain]; decide), Text.encode_cons, same]
          exact ⟨List.takeWhile_cons_of_neg (by simp [special]),
            List.dropWhile_cons_of_neg (by simp [special])⟩

/-! Reading a string, one part at a time. -/

theorem toOption_readString (bytes : List UInt8) : (readString bytes).toOption =
    match bytes.dropWhile isPlain with
    | [] => none
    | mark :: rest =>
        if mark = quoteMark then (Text.decode? (bytes.takeWhile isPlain)).map (·, rest)
        else if mark = escapeMark then
          (Text.decode? (bytes.takeWhile isPlain)).bind fun text =>
            (readEscape rest).toOption.bind fun (c, tail) =>
              (readString tail).toOption.map fun (more, tail) => (text ++ c :: more, tail)
        else none := by
  rw [readString]
  split
  case h_1 nothing => rw [nothing]; rfl
  case h_2 mark rest next =>
    simp only [next]
    by_cases quote : mark = quoteMark
    · cases Text.decode? (bytes.takeWhile isPlain) <;> simp [quote, Except.toOption]
    · by_cases escape : mark = escapeMark
      · subst escape
        cases Text.decode? (bytes.takeWhile isPlain) with
        | none => simp [Except.toOption]
        | some text =>
            simp only [or_true, if_true, quote, if_false, Option.bind_some]
            split
            case h_1 failed => rw [failed]; rfl
            case h_2 c tail read =>
              rw [read]
              change _ = Option.map _ (readString tail).toOption
              cases readString tail <;> rfl
      · simp [quote, escape, Except.toOption]

theorem readString_plain {c : Char} (plain : isPlainChar c = true) (bytes : List UInt8) :
    (readString (Text.encodeChar c ++ bytes)).toOption =
      (readString bytes).toOption.map fun (text, rest) => (c :: text, rest) := by
  have all : ∀ b ∈ Text.encodeChar c, isPlain b = true := fun b => isPlain_of_mem_encodeChar plain
  rw [toOption_readString, toOption_readString bytes, List.takeWhile_append_of_pos all,
    List.dropWhile_append_of_pos all, Text.decode?_encodeChar_append]
  cases bytes.dropWhile isPlain with
  | nil => rfl
  | cons mark rest =>
      simp only
      by_cases quote : mark = quoteMark
      · cases Text.decode? (bytes.takeWhile isPlain) <;> simp [quote]
      · by_cases escape : mark = escapeMark
        · subst escape
          rw [if_neg quote, if_neg quote, if_pos rfl, if_pos rfl]
          cases Text.decode? (bytes.takeWhile isPlain) with
          | none => rfl
          | some text => cases (readEscape rest).toOption <;> simp [Function.comp_def]
        · simp [quote, escape]

theorem readString_quoteMark (rest : List UInt8) :
    (readString (quoteMark :: rest)).toOption = some ([], rest) := by
  have plain : isPlain quoteMark = false := rfl
  rw [toOption_readString, List.dropWhile_cons_of_neg (by simp [plain]),
    List.takeWhile_cons_of_neg (by simp [plain]), Text.decode?]
  rfl

theorem readString_escapeMark (bytes : List UInt8) :
    (readString (escapeMark :: bytes)).toOption =
      (readEscape bytes).toOption.bind fun (c, tail) =>
        (readString tail).toOption.map fun (text, rest) => (c :: text, rest) := by
  have plain : isPlain escapeMark = false := rfl
  rw [toOption_readString, List.dropWhile_cons_of_neg (by simp [plain]),
    List.takeWhile_cons_of_neg (by simp [plain]), Text.decode?]
  rfl

theorem readString_of_readEscape {bytes tail : List UInt8} {c : Char}
    (read : readEscape bytes = .ok (c, tail)) :
    (readString (escapeMark :: bytes)).toOption =
      (readString tail).toOption.map fun (text, rest) => (c :: text, rest) := by
  rw [readString_escapeMark, read]
  rfl

@[simp] theorem bytesOf_nil : bytesOf [] = [] := rfl

@[simp] theorem bytesOf_cons (piece : Piece) (pieces : List Piece) :
    bytesOf (piece :: pieces) = piece.bytes ++ bytesOf pieces := rfl

theorem readHex_unit (u : CodeUnit) (rest : List UInt8) :
    readHex (u.first.byte :: u.second.byte :: u.third.byte :: u.fourth.byte :: rest) =
      .ok (u.number, rest) := by
  simp only [readHex, u.first.spelled, u.second.spelled, u.third.spelled, u.fourth.spelled,
    CodeUnit.number]

theorem readEscape_short {letter : UInt8} {c : Char} (known : shortEscape? letter = some c)
    (rest : List UInt8) : readEscape (letter :: rest) = .ok (c, rest) := by
  simp only [readEscape, known]

theorem readString_unit (u : CodeUnit) (bytes : List UInt8) :
    (readString (u.bytes ++ bytes)).toOption =
      if u.IsLow then none
      else if u.IsHigh then
        (readLowSurrogate u.number bytes).toOption.bind fun (c, tail) =>
          (readString tail).toOption.map fun (text, rest) => (c :: text, rest)
      else (readString bytes).toOption.map fun (text, rest) => (Char.ofNat u.number :: text, rest) := by
  have letter : shortEscape? 117 = none := rfl
  simp only [CodeUnit.bytes, List.cons_append, List.nil_append, readString_escapeMark, readEscape,
    letter, if_true, readCodeUnit, readHex_unit]
  by_cases low : u.IsLow
  · have bounds : 0xdc00 ≤ u.number ∧ u.number ≤ 0xdfff := low
    rw [if_pos bounds, if_pos low]
    rfl
  · have bounds : ¬(0xdc00 ≤ u.number ∧ u.number ≤ 0xdfff) := low
    rw [if_neg bounds, if_neg low]
    by_cases high : u.IsHigh
    · have bounds : 0xd800 ≤ u.number ∧ u.number < 0xdc00 := high
      rw [if_pos bounds, if_pos high]
    · have bounds : ¬(0xd800 ≤ u.number ∧ u.number < 0xdc00) := high
      rw [if_neg bounds, if_neg high]
      rfl

theorem readLowSurrogate_unit (high : CodeUnit) (u : CodeUnit) (rest : List UInt8) :
    readLowSurrogate high.number (u.bytes ++ rest) =
      if u.IsLow then .ok (paired high u, rest) else .error (.before .loneSurrogate rest) := by
  simp only [CodeUnit.bytes, List.cons_append, List.nil_append, readLowSurrogate, ne_eq,
    not_true_eq_false, if_false, readHex_unit]
  by_cases low : u.IsLow
  · have bounds : ¬(u.number < 0xdc00 ∨ 0xdfff < u.number) := by
      rw [CodeUnit.IsLow] at low
      omega
    rw [if_neg bounds, if_pos low]
    rfl
  · have bounds : u.number < 0xdc00 ∨ 0xdfff < u.number := by
      rw [CodeUnit.IsLow] at low
      omega
    rw [if_pos bounds, if_neg low]

theorem readLowSurrogate_other (high : Nat) {pieces : List Piece} (rest : List UInt8)
    (other : ∀ u pieces', pieces ≠ .unit u :: pieces') :
    (readLowSurrogate high (bytesOf pieces ++ quoteMark :: rest)).toOption = none := by
  cases pieces with
  | nil => rfl
  | cons piece pieces =>
      cases piece with
      | unit u => exact absurd rfl (other u pieces)
      | plain c plain =>
          obtain ⟨lead, tail, same, -⟩ := Text.encodeChar_eq_cons c
          have member : lead ∈ Text.encodeChar c := same ▸ List.mem_cons_self
          have special : lead ≠ escapeMark := by
            rintro rfl
            cases isPlain_of_mem_encodeChar plain member
          simp [bytesOf, Piece.bytes, same, readLowSurrogate, special, Except.toOption]
      | short letter c known =>
          have special : letter ≠ 117 := by
            rintro rfl
            cases known
          simp [bytesOf, Piece.bytes, readLowSurrogate, special, Except.toOption]

theorem readString_bytesOf (pieces : List Piece) (rest : List UInt8) :
    (readString (bytesOf pieces ++ quoteMark :: rest)).toOption =
      (textOf? pieces).map (·, rest) := by
  fun_induction textOf? pieces with
  | case1 => exact readString_quoteMark rest
  | case2 c plain pieces induction =>
      rw [bytesOf_cons, List.append_assoc, Piece.bytes, readString_plain plain, induction, Option.map_map,
        Option.map_map]
      rfl
  | case3 letter c known pieces induction =>
      rw [bytesOf_cons, List.append_assoc, Piece.bytes, List.cons_append, List.cons_append,
        readString_of_readEscape (readEscape_short known _), List.nil_append, induction, Option.map_map,
        Option.map_map]
      rfl
  | case4 u pieces low =>
      rw [bytesOf_cons, List.append_assoc, Piece.bytes, readString_unit, if_pos low, Option.map_none]
  | case5 u notLow high low pieces isLow induction =>
      rw [bytesOf_cons, bytesOf_cons, List.append_assoc, List.append_assoc, Piece.bytes, Piece.bytes,
        readString_unit, if_neg notLow, if_pos high, readLowSurrogate_unit, if_pos isLow]
      change Option.map _ (readString (bytesOf pieces ++ quoteMark :: rest)).toOption = _
      rw [induction, Option.map_map, Option.map_map]
      rfl
  | case6 u notLow high low pieces notPaired =>
      rw [bytesOf_cons, bytesOf_cons, List.append_assoc, List.append_assoc, Piece.bytes, Piece.bytes,
        readString_unit, if_neg notLow, if_pos high, readLowSurrogate_unit, if_neg notPaired]
      rfl
  | case7 u pieces notLow high other =>
      rw [bytesOf_cons, List.append_assoc, Piece.bytes, readString_unit, if_neg notLow, if_pos high,
        readLowSurrogate_other u.number rest other]
      rfl
  | case8 u pieces notLow notHigh induction =>
      rw [bytesOf_cons, List.append_assoc, Piece.bytes, readString_unit, if_neg notLow, if_neg notHigh,
        induction, Option.map_map, Option.map_map]
      rfl

/-! Passing over a string, one part at a time. -/

theorem skipString_eq (bytes : List UInt8) : skipString bytes =
    match bytes.dropWhile isPlain with
    | [] => .error (.before .endInString [])
    | mark :: rest =>
        if mark = quoteMark then .ok rest
        else if mark = escapeMark then
          match skipEscape rest with
          | .error fault => .error fault
          | .ok tail => skipString tail
        else .error (.before .controlCharacter (mark :: rest)) := by
  rw [skipString]
  split
  case h_1 nothing => rw [nothing]
  case h_2 mark rest next =>
    simp only [next]
    split
    · rfl
    · split
      · split
        case h_1 failed => rw [failed]
        case h_2 tail skipped => rw [skipped]
      · rfl

theorem skipString_plain {run : List UInt8} (plain : ∀ b ∈ run, isPlain b = true)
    (bytes : List UInt8) : skipString (run ++ bytes) = skipString bytes := by
  rw [skipString_eq, skipString_eq bytes, List.dropWhile_append_of_pos plain]

theorem skipString_quoteMark (rest : List UInt8) : skipString (quoteMark :: rest) = .ok rest := by
  rw [skipString_eq, List.dropWhile_cons_of_neg (by decide)]
  rfl

theorem skipString_escapeMark {bytes tail : List UInt8} (skipped : skipEscape bytes = .ok tail) :
    skipString (escapeMark :: bytes) = skipString tail := by
  rw [skipString_eq, List.dropWhile_cons_of_neg (by decide)]
  simp only [skipped]
  rfl

theorem skipString_piece (piece : Piece) (bytes : List UInt8) :
    skipString (piece.bytes ++ bytes) = skipString bytes := by
  cases piece with
  | plain c plain => exact skipString_plain (fun b => isPlain_of_mem_encodeChar plain) bytes
  | short letter c known =>
      apply skipString_escapeMark
      simp [skipEscape, known]
  | unit u =>
      apply skipString_escapeMark
      have letter : shortEscape? 117 = none := rfl
      simp [skipEscape, letter, readHex_unit]

theorem skipString_bytesOf (pieces : List Piece) (rest : List UInt8) :
    skipString (bytesOf pieces ++ quoteMark :: rest) = .ok rest := by
  induction pieces with
  | nil => exact skipString_quoteMark rest
  | cons piece pieces induction => rw [bytesOf_cons, List.append_assoc, skipString_piece, induction]

/-! What is passed over is a string. -/

theorem hexNibble?_lt {b : UInt8} {v : Nat} (read : hexNibble? b = some v) : b.toNat < 0x80 := by
  have all : ∀ n < 256, (hexNibble? (UInt8.ofNat n)).isSome = true → n < 0x80 := by
    decide +kernel
  apply all b.toNat b.toNat_lt
  rw [UInt8.ofNat_toNat, read]
  rfl

theorem shortEscape?_lt {letter : UInt8} {c : Char} (known : shortEscape? letter = some c) :
    letter.toNat < 0x80 := by
  unfold shortEscape? at known
  split at known <;> first | decide | cases known

theorem eq_of_readHex {bytes rest : List UInt8} {n : Nat} (read : readHex bytes = .ok (n, rest)) :
    ∃ u : CodeUnit, escapeMark :: 117 :: bytes = u.bytes ++ rest ∧ u.number = n := by
  unfold readHex at read
  split at read
  case h_2 => cases read
  case h_1 a b c d tail =>
    split at read
    case h_2 => cases read
    case h_1 first second third fourth =>
      cases read
      exact ⟨⟨⟨a, _, first⟩, ⟨b, _, second⟩, ⟨c, _, third⟩, ⟨d, _, fourth⟩⟩, rfl, rfl⟩

theorem CodeUnit.ascii (u : CodeUnit) : Text.IsAscii u.bytes := by
  intro b member
  simp only [CodeUnit.bytes, List.mem_cons, List.not_mem_nil, or_false] at member
  rcases member with rfl | rfl | rfl | rfl | rfl | rfl
  · decide
  · decide
  · exact hexNibble?_lt u.first.spelled
  · exact hexNibble?_lt u.second.spelled
  · exact hexNibble?_lt u.third.spelled
  · exact hexNibble?_lt u.fourth.spelled

theorem eq_of_skipEscape {bytes tail : List UInt8} (skipped : skipEscape bytes = .ok tail) :
    ∃ piece : Piece, escapeMark :: bytes = piece.bytes ++ tail ∧ Text.IsAscii piece.bytes := by
  unfold skipEscape at skipped
  split at skipped
  case h_1 => cases skipped
  case h_2 letter rest =>
    split at skipped
    case isTrue known =>
      cases skipped
      obtain ⟨c, known⟩ := Option.isSome_iff_exists.mp known
      refine ⟨.short letter c known, rfl, .cons (by decide) (.cons (shortEscape?_lt known) ?_)⟩
      exact fun b none => by cases none
    case isFalse =>
      split at skipped
      case isFalse => cases skipped
      case isTrue isUnit =>
        split at skipped
        case h_1 => cases skipped
        case h_2 read =>
          cases skipped
          obtain ⟨u, same, -⟩ := eq_of_readHex read
          exact ⟨.unit u, isUnit ▸ same, u.ascii⟩

theorem exists_plain (text : List Char) (plain : ∀ c ∈ text, isPlainChar c = true) :
    ∃ pieces, bytesOf pieces = Text.encode text ∧ textOf? pieces = some text := by
  induction text with
  | nil => exact ⟨[], rfl, rfl⟩
  | cons c text induction =>
      obtain ⟨first, others⟩ := List.forall_mem_cons.mp plain
      obtain ⟨pieces, bytes, spelled⟩ := induction others
      refine ⟨.plain c first :: pieces, ?_, ?_⟩
      · rw [bytesOf_cons, bytes]
        rfl
      · rw [textOf?, spelled]
        rfl

theorem bytesOf_append (before after : List Piece) :
    bytesOf (before ++ after) = bytesOf before ++ bytesOf after :=
  List.flatMap_append

/-- What is passed over in a text is a string. The induction is on the number of bytes. -/
theorem eq_of_skipString {bytes rest : List UInt8} (encoded : Text.IsEncoded bytes)
    (skipped : skipString bytes = .ok rest) :
    ∃ pieces, bytes = bytesOf pieces ++ quoteMark :: rest ∧ Text.IsEncoded rest := by
  induction size : bytes.length using Nat.strongRecOn generalizing bytes with
  | ind n induction =>
    obtain ⟨text, rfl⟩ := encoded
    obtain ⟨taken, dropped⟩ := takeWhile_encode text
    obtain ⟨run, spelled, -⟩ := exists_plain (text.takeWhile isPlainChar)
      (List.all_eq_true.mp List.all_takeWhile)
    have whole : Text.encode text =
        bytesOf run ++ Text.encode (text.dropWhile isPlainChar) := by
      rw [spelled, ← Text.encode_append, List.takeWhile_append_dropWhile]
    have encoded : Text.IsEncoded (Text.encode (text.dropWhile isPlainChar)) := ⟨_, rfl⟩
    rw [skipString_eq, dropped] at skipped
    split at skipped
    case h_1 => cases skipped
    case h_2 mark tail next =>
      rw [next] at whole encoded
      split at skipped
      case isTrue quote =>
        cases skipped
        subst quote
        exact ⟨run, whole, encoded.tail (by decide)⟩
      case isFalse =>
        split at skipped
        case isFalse => cases skipped
        case isTrue escape =>
          subst escape
          split at skipped
          case h_1 => cases skipped
          case h_2 tail' escaped =>
            obtain ⟨piece, same, ascii⟩ := eq_of_skipEscape escaped
            rw [same] at whole encoded
            have shorter : tail'.length < n := by
              have drop := skipEscape_length escaped
              rw [← size, whole, ← same]
              simp only [List.length_append, List.length_cons]
              omega
            obtain ⟨pieces, rfl, encoded'⟩ := induction _ shorter (encoded.drop ascii) skipped rfl
            refine ⟨run ++ piece :: pieces, ?_, encoded'⟩
            rw [whole, bytesOf_append, bytesOf_cons, List.append_assoc, List.append_assoc]

/-! What is read would be passed over. -/

theorem skipString_of_readLowSurrogate {high : Nat} {bytes tail : List UInt8} {c : Char}
    (read : readLowSurrogate high bytes = .ok (c, tail)) : skipString bytes = skipString tail := by
  unfold readLowSurrogate at read
  split at read
  case h_1 => cases read
  case h_2 mark rest =>
    split at read
    case isTrue => cases read
    case isFalse escape =>
      split at read
      case h_1 => cases read
      case h_2 letter digits =>
        split at read
        case isTrue => cases read
        case isFalse isUnit =>
          split at read
          case h_1 => cases read
          case h_2 low after hex =>
            split at read
            case isTrue => cases read
            case isFalse =>
              simp only [Except.ok.injEq, Prod.mk.injEq] at read
              obtain ⟨-, rfl⟩ := read
              obtain ⟨u, same, -⟩ := eq_of_readHex hex
              rw [Decidable.not_not.mp escape, Decidable.not_not.mp isUnit, same]
              exact skipString_piece (.unit u) after

theorem skipString_of_readEscape {bytes tail : List UInt8} {c : Char}
    (read : readEscape bytes = .ok (c, tail)) :
    skipString (escapeMark :: bytes) = skipString tail := by
  unfold readEscape at read
  split at read
  case h_1 => cases read
  case h_2 letter rest =>
    split at read
    case h_1 c known =>
      cases read
      exact skipString_piece (.short letter c known) tail
    case h_2 =>
      split at read
      case isFalse => cases read
      case isTrue isUnit =>
        subst isUnit
        unfold readCodeUnit at read
        split at read
        case h_1 => cases read
        case h_2 n after hex =>
          obtain ⟨u, same, rfl⟩ := eq_of_readHex hex
          have passed : skipString (u.bytes ++ after) = skipString after :=
            skipString_piece (.unit u) after
          rw [same, passed]
          split at read
          case isTrue => cases read
          case isFalse =>
            split at read
            case isTrue => exact skipString_of_readLowSurrogate read
            case isFalse =>
              cases read
              rfl

theorem skipString_of_readString {bytes rest : List UInt8} {text : List Char}
    (read : readString bytes = .ok (text, rest)) : skipString bytes = .ok rest := by
  induction size : bytes.length using Nat.strongRecOn generalizing bytes text with
  | ind n induction =>
    rw [readString] at read
    split at read
    case h_1 => cases read
    case h_2 mark tail next =>
      have split := List.takeWhile_append_dropWhile (p := isPlain) (l := bytes)
      have plain : ∀ b ∈ bytes.takeWhile isPlain, isPlain b = true :=
        List.all_eq_true.mp List.all_takeWhile
      rw [← split, next, skipString_plain plain]
      split at read
      case isFalse => cases read
      case isTrue =>
        split at read
        case h_1 => cases read
        case h_2 =>
          split at read
          case isTrue quote =>
            cases read
            rw [quote, skipString_quoteMark]
          case isFalse quote =>
            split at read
            case h_1 => cases read
            case h_2 c after escaped =>
              split at read
              case h_1 => cases read
              case h_2 more last others =>
                cases read
                have shorter : after.length < n := by
                  have drop := readEscape_length escaped
                  rw [← size, ← split, next]
                  simp only [List.length_append, List.length_cons]
                  omega
                have isEscape : mark = escapeMark := by
                  rcases ‹mark = quoteMark ∨ mark = escapeMark› with isQuote | isEscape
                  · exact absurd isQuote quote
                  · exact isEscape
                rw [isEscape, skipString_of_readEscape escaped]
                exact induction _ shorter others rfl

end Courier.Json
