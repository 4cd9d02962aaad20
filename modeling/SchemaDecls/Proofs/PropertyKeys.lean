import Mathlib.Data.List.TakeWhile
import SchemaDecls.PropertyKey

/-!
# Keys are read back

A key is written in one of three ways: bare, as the key of an index signature, or quoted.
The first character tells which, and in none of them does the key run into what follows it,
so that key and rest are read back from the text (`PropertyKey.read_render`).

Between quotes the rules are those of JSON strings (`Text.unquote`).  They are stated here
for a reader, with all escapes that JSON knows, whether or not they are ever written.
-/

namespace SchemaDecls

/-! ## Maximal munch -/

/-- What is taken from the front of a list ends where something else begins. -/
theorem takeWhile_dropWhile_append {α : Type} {p : α → Bool} {taken rest : List α}
    (htaken : ∀ a ∈ taken, p a = true) (hrest : ∀ a ∈ rest.head?, p a = false) :
    (taken ++ rest).takeWhile p = taken ∧ (taken ++ rest).dropWhile p = rest := by
  have hstop : rest.takeWhile p = [] ∧ rest.dropWhile p = rest := by
    cases rest with
    | nil => exact ⟨rfl, rfl⟩
    | cons a rest =>
        have ha : p a = false := hrest a rfl
        simp [ha]
  rw [List.takeWhile_append_of_pos htaken, List.dropWhile_append_of_pos htaken, hstop.1, hstop.2,
    List.append_nil]
  exact ⟨rfl, rfl⟩

namespace Text

/-! ## Strings -/

/-- The value of a hexadecimal digit in either case. -/
def hexValue? (c : Char) : Option Nat :=
  if '0' ≤ c ∧ c ≤ '9' then some (c.toNat - 48)
  else if 'a' ≤ c ∧ c ≤ 'f' then some (c.toNat - 87)
  else if 'A' ≤ c ∧ c ≤ 'F' then some (c.toNat - 55)
  else none

/-- The number that hexadecimal digits stand for. -/
def hexNumber? (digits : List Char) : Option Nat :=
  digits.foldlM (fun n c => (hexValue? c).map (16 * n + ·)) 0

/-- The character with this code, unless the code is half of a pair. -/
def charOfCode? (code : Nat) : Option Char :=
  if 0xD800 ≤ code ∧ code < 0xE000 then none else some (Char.ofNat code)

/-- The character that a letter stands for behind a backslash. -/
def escaped? : Char → Option Char
  | '"' => some '"'
  | '\\' => some '\\'
  | '/' => some '/'
  | 'b' => some '\x08'
  | 'f' => some '\x0c'
  | 'n' => some '\n'
  | 'r' => some '\r'
  | 't' => some '\t'
  | _ => none

/-- Puts a character in front of what has been read, if anything has. -/
def push (c : Char) (r : Option (List Char × List Char)) : Option (List Char × List Char) :=
  r.map fun r => (c :: r.1, r.2)

/-- Reads a string up to the quote that ends it: what it stands for, and what follows. -/
def unquote : List Char → Option (List Char × List Char)
  | [] => none
  | '"' :: rest => some ([], rest)
  | '\\' :: 'u' :: a :: b :: c :: d :: rest =>
      ((hexNumber? [a, b, c, d]).bind charOfCode?).bind fun x => push x (unquote rest)
  | '\\' :: c :: rest => (escaped? c).bind fun x => push x (unquote rest)
  | c :: rest => if c.toNat < 0x20 then none else push c (unquote rest)

theorem exists_of_mem_hexDigits {width n : Nat} {c : Char} (h : c ∈ hexDigits width n) :
    ∃ d < 16, c = hexDigit d := by
  induction width generalizing n with
  | zero => contradiction
  | succ width ih =>
      rcases List.mem_append.mp h with hmem | hmem
      · exact ih hmem
      · exact ⟨n % 16, Nat.mod_lt n (by decide), List.mem_singleton.mp hmem⟩

/-- What is quoted has no control characters. -/
theorem toNat_of_mem_quoted {s : List Char} : ∀ c ∈ quoted s, 0x20 ≤ c.toNat := by
  have hdigits : ∀ d < 16, 0x20 ≤ (hexDigit d).toNat := by decide
  have hchar : ∀ c, ∀ d ∈ quotedChar c, 0x20 ≤ d.toNat := by
    intro c
    unfold quotedChar
    split_ifs with _ _ _ _ _ _ _ hcontrol
    case pos | pos | pos | pos | pos | pos | pos => simp
    · refine List.forall_mem_cons.mpr ⟨by decide, List.forall_mem_cons.mpr ⟨by decide, ?_⟩⟩
      intro d hd
      obtain ⟨n, hn, rfl⟩ := exists_of_mem_hexDigits hd
      exact hdigits n hn
    · exact fun d hd => List.mem_singleton.mp hd ▸ Nat.le_of_not_lt hcontrol
  refine List.forall_mem_cons.mpr ⟨by decide, List.forall_mem_append.mpr ⟨?_, by simp⟩⟩
  intro d hd
  obtain ⟨c, -, hd⟩ := List.mem_flatMap.mp hd
  exact hchar c d hd

/-- Control characters are read back from their codes. -/
theorem hexNumber?_hexDigits : ∀ n < 0x20, hexNumber? (hexDigits 4 n) = some n := by decide

theorem charOfCode?_of_lt {c : Char} (h : c.toNat < 0x20) : charOfCode? c.toNat = some c := by
  have hpair : ¬ (0xD800 ≤ c.toNat ∧ c.toNat < 0xE000) := by omega
  rw [charOfCode?, if_neg hpair, Char.ofNat_toNat]

/-- A character of a string is read back, however it is written. -/
theorem unquote_quotedChar (c : Char) (rest : List Char) :
    unquote (quotedChar c ++ rest) = push c (unquote rest) := by
  unfold quotedChar
  split_ifs with hquote hbackslash hbreak hreturn htab hfeed hback hcontrol
  · simp [unquote, escaped?, hquote]
  · simp [unquote, escaped?, hbackslash]
  · simp [unquote, escaped?, hbreak]
  · simp [unquote, escaped?, hreturn]
  · simp [unquote, escaped?, htab]
  · simp [unquote, escaped?, hfeed]
  · simp [unquote, escaped?, hback]
  · have hnumber := hexNumber?_hexDigits c.toNat hcontrol
    simp only [hexDigits, List.nil_append, List.cons_append] at hnumber ⊢
    rw [unquote, hnumber, Option.bind_some, charOfCode?_of_lt hcontrol, Option.bind_some]
  · simp [unquote, hbackslash, hcontrol]

/-- A string is read back up to its end, whatever follows. -/
theorem unquote_flatMap (s rest : List Char) :
    unquote (s.flatMap quotedChar ++ '"' :: rest) = some (s, rest) := by
  induction s with
  | nil => simp [unquote]
  | cons c s ih =>
      rw [List.flatMap_cons, List.append_assoc, unquote_quotedChar, ih]
      rfl

end Text

namespace PropertyKey

/-! ## Keys -/

/-- The character may stand in an identifier. -/
def isPart (c : Char) : Bool := c.isAlphanum || c == '_' || c == '$'

/-- Reads a key, and gives what follows it. -/
def read (text : List Char) : Option (String × List Char) :=
  match text with
  | '"' :: rest => (Text.unquote rest).map fun r => (String.ofList r.1, r.2)
  | '[' :: _ =>
      if indexSignature.toList <+: text then some (indexSignature, text.drop indexSignature.length)
      else none
  | _ =>
      if isIdentifier (text.takeWhile isPart) then
        some (String.ofList (text.takeWhile isPart), text.dropWhile isPart)
      else none

theorem isPart_of_isIdentifier {s : List Char} (h : isIdentifier s = true) :
    ∀ c ∈ s, isPart c = true := by
  cases s with
  | nil => contradiction
  | cons c rest =>
      obtain ⟨hfirst, hrest⟩ := Bool.and_eq_true_iff.mp h
      refine List.forall_mem_cons.mpr ⟨?_, List.all_eq_true.mp hrest⟩
      simp only [Bool.or_eq_true] at hfirst
      rcases hfirst with (hc | hc) | hc
      · simp [isPart, Char.isAlphanum, hc]
      · simp [isPart, hc]
      · simp [isPart, hc]

/-- An identifier neither begins with a quote nor with a bracket. -/
theorem read_of_isIdentifier {key rest : List Char} (hkey : isIdentifier key = true)
    (h : ∀ c ∈ rest.head?, isPart c = false) :
    read (key ++ rest) = some (String.ofList key, rest) := by
  have hparts := isPart_of_isIdentifier hkey
  obtain ⟨htake, hdrop⟩ := takeWhile_dropWhile_append hparts h
  have hhead : ∀ c, isPart c = false → (key ++ rest).head? ≠ some c := by
    intro c hc hhead
    cases key with
    | nil => contradiction
    | cons d key =>
        obtain rfl := Option.some.inj hhead
        rw [hparts d List.mem_cons_self] at hc
        contradiction
  unfold read
  split
  next heq => exact absurd (congrArg List.head? heq) (hhead '"' (by decide))
  next heq => exact absurd (congrArg List.head? heq) (hhead '[' (by decide))
  next => rw [htake, hdrop, if_pos hkey]

/-- A key is read back from its text if no part of an identifier follows it. -/
theorem read_render (key : String) {rest : List Char}
    (h : ∀ c ∈ rest.head?, isPart c = false) :
    read ((render (some key)).toList ++ rest) = some (key, rest) := by
  unfold render
  dsimp only
  split_ifs with hbare
  · rcases Bool.or_eq_true_iff.mp hbare with hident | hindex
    · rw [read_of_isIdentifier hident h, String.ofList_toList]
    · obtain rfl : key = indexSignature := eq_of_beq hindex
      show (if indexSignature.toList <+: indexSignature.toList ++ rest then
        some (indexSignature, (indexSignature.toList ++ rest).drop indexSignature.length)
        else none) = _
      rw [if_pos (List.prefix_append _ _), ← String.length_toList, List.drop_left]
  · rw [String.toList_ofList, Text.quoted, List.cons_append, List.append_assoc]
    show (Text.unquote (key.toList.flatMap Text.quotedChar ++ '"' :: rest)).map _ = _
    rw [Text.unquote_flatMap, Option.map_some, String.ofList_toList]

end PropertyKey

end SchemaDecls
