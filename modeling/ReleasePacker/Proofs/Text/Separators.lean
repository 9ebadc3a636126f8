import Mathlib.Algebra.Group.Nat.Defs
import ReleasePacker.Proofs.Text.Pieces
import ReleasePacker.Proofs.Text.Utf8

/-!
# Separators in bytes and in text

A byte below 0x80 stands for one character wherever it is met: it ends an unfinished character,
and no other byte is read as a part of it. So bytes of any kind can be cut at such a byte before or
after they are decoded.
-/

namespace ReleasePacker.Utf8

/-- A byte that is a character of its own; zero is left out. -/
def IsPlain (byte : UInt8) : Prop := 0 < byte.toNat ∧ byte.toNat < 0x80

instance (byte : UInt8) : Decidable (IsPlain byte) := inferInstanceAs (Decidable (_ ∧ _))

/-- The character of a plain byte. -/
def plainChar (byte : UInt8) : Char := Char.ofNat byte.toNat

/-- The bytes that may follow are no plain ones, and whatever they are, the character is no plain
one either. -/
structure Pending.Bounded (pending : Pending) : Prop where
  low : 0x80 ≤ pending.low
  owed : 1 ≤ pending.owed
  code : 0x80 ≤ (pending.code * 64 + (pending.low - 0x80)) * 64 ^ (pending.owed - 1)

/-- No unfinished character, or a bounded one. -/
def Scanner.Bounded (scanner : Scanner) : Prop :=
  ∀ pending, scanner.pending = some pending → pending.Bounded

theorem toNat_plainChar {byte : UInt8} (small : byte.toNat < 0x80) :
    (plainChar byte).toNat = byte.toNat := by
  rw [plainChar, Char.ofNat, dif_pos (.inl (by omega))]
  rfl

theorem eq_of_plainChar_eq {byte other : UInt8} (small : byte.toNat < 0x80)
    (otherSmall : other.toNat < 0x80) (same : plainChar byte = plainChar other) : byte = other := by
  have values := congrArg Char.toNat same
  rw [toNat_plainChar small, toNat_plainChar otherSmall] at values
  exact UInt8.toNat_inj.mp values

/-- What is made of a larger code point is no plain character: it is that code point or zero. -/
theorem ofNat_ne_plainChar {byte : UInt8} (plain : IsPlain byte) {code : Nat}
    (large : 0x80 ≤ code) : Char.ofNat code ≠ plainChar byte := by
  intro same
  have values := congrArg Char.toNat same
  have positive := plain.1
  have small := plain.2
  rw [toNat_plainChar small, Char.ofNat] at values
  by_cases valid : code.isValidChar
  · rw [dif_pos valid] at values
    change code = _ at values
    omega
  · rw [dif_neg valid] at values
    change 0 = _ at values
    omega

theorem replacement_ne_plainChar {byte : UInt8} (plain : IsPlain byte) :
    '\uFFFD' ≠ plainChar byte :=
  ofNat_ne_plainChar plain (show 0x80 ≤ 0xFFFD by decide)

/-! ## Unfinished characters -/

namespace Pending.Bounded

theorem of_firstByte {byte : Nat} {pending : Pending}
    (first : firstByte byte = some (.inr pending)) : pending.Bounded := by
  unfold firstByte at first
  split_ifs at first <;> simp only [Option.some.injEq, Sum.inr.injEq, reduceCtorEq] at first <;>
    subst first <;> constructor <;> dsimp only <;> omega

theorem more {pending : Pending} (bounded : pending.Bounded) {byte : Nat}
    (lower : pending.low ≤ byte) (owed : 1 < pending.owed) :
    Pending.Bounded ⟨pending.code * 64 + (byte - 0x80), pending.owed - 1, 0x80, 0xBF⟩ where
  low := Nat.le_refl _
  owed := by
    dsimp only
    omega
  code := by
    -- One byte more multiplies the code by 64, and one byte less is owed.
    have powers : 64 ^ (pending.owed - 1) = 64 * 64 ^ (pending.owed - 1 - 1) := by
      rw [← Nat.pow_succ']
      congr 1
      omega
    have larger : pending.code * 64 + (pending.low - 0x80) ≤
        pending.code * 64 + (byte - 0x80) := by omega
    calc 0x80 ≤ (pending.code * 64 + (pending.low - 0x80)) * 64 ^ (pending.owed - 1) :=
          bounded.code
      _ ≤ (pending.code * 64 + (byte - 0x80)) * 64 ^ (pending.owed - 1) :=
          Nat.mul_le_mul_right _ larger
      _ = ((pending.code * 64 + (byte - 0x80)) * 64 + (0x80 - 0x80)) *
            64 ^ (pending.owed - 1 - 1) := by
          rw [powers, Nat.sub_self, Nat.add_zero, Nat.mul_assoc]

theorem large {pending : Pending} (bounded : pending.Bounded) {byte : Nat}
    (lower : pending.low ≤ byte) (last : pending.owed ≤ 1) :
    0x80 ≤ pending.code * 64 + (byte - 0x80) := by
  have code := bounded.code
  rw [show pending.owed - 1 = 0 by omega, Nat.pow_zero, Nat.mul_one] at code
  omega

end Pending.Bounded

namespace Scanner

variable {scanner : Scanner}

theorem bounded_start : start.Bounded := nofun

theorem bounded_restart (found : List (Option Char)) (byte : Nat) :
    (restart found byte).Bounded := by
  intro pending unfinished
  rw [restart] at unfinished
  cases first : firstByte byte with
  | none =>
    rw [first] at unfinished
    cases unfinished
  | some begun =>
    rw [first] at unfinished
    cases begun with
    | inl c => cases unfinished
    | inr p =>
      cases unfinished
      exact .of_firstByte first

/-- One byte keeps the bounds. -/
theorem Bounded.feed (bounded : scanner.Bounded) (byte : UInt8) : (scanner.feed byte).Bounded := by
  rw [Scanner.feed]
  cases unfinished : scanner.pending with
  | none => exact bounded_restart _ _
  | some p =>
    dsimp only
    split
    next inside =>
      split
      · intro pending same
        cases same
      next more =>
        intro pending same
        obtain rfl := Option.some.inj same
        exact (bounded p unfinished).more inside.1 (Nat.not_le.mp more)
    · exact bounded_restart _ _

theorem Bounded.foldl (bounded : scanner.Bounded) (bytes : Bytes) :
    (bytes.foldl Scanner.feed scanner).Bounded := by
  induction bytes generalizing scanner with
  | nil => exact bounded
  | cons byte rest ih => exact ih (bounded.feed byte)

/-! ## Plain bytes -/

theorem restart_plain (found : List (Option Char)) {byte : UInt8} (plain : IsPlain byte) :
    restart found byte.toNat = ⟨some (plainChar byte) :: found, none⟩ := by
  rw [restart, firstByte, if_pos plain.2]
  rfl

/-- A plain byte ends what is unfinished and is found as its character. -/
theorem feed_plain (bounded : scanner.Bounded) {byte : UInt8} (plain : IsPlain byte) :
    scanner.feed byte = ⟨some (plainChar byte) :: scanner.finish.reverse, none⟩ := by
  rw [feed, finish]
  cases unfinished : scanner.pending with
  | none =>
    dsimp only
    rw [restart_plain _ plain, List.reverse_reverse]
  | some p =>
    have outside : ¬ (p.low ≤ byte.toNat ∧ byte.toNat ≤ p.high) := by
      have low := (bounded p unfinished).low
      have small := plain.2
      omega
    dsimp only
    rw [if_neg outside, restart_plain _ plain, List.reverse_reverse]

/-- The characters found before do not matter. -/
theorem feed_append (found base : List (Option Char)) (pending : Option Pending) (byte : UInt8) :
    feed ⟨found ++ base, pending⟩ byte =
      ⟨(feed ⟨found, pending⟩ byte).found ++ base, (feed ⟨found, pending⟩ byte).pending⟩ := by
  have restarted (found : List (Option Char)) : restart (found ++ base) byte.toNat =
      ⟨(restart found byte.toNat).found ++ base, (restart found byte.toNat).pending⟩ := by
    rw [restart, restart]
    rcases firstByte byte.toNat with _ | (_ | _) <;> rfl
  rw [feed, feed]
  cases pending with
  | none => exact restarted found
  | some p =>
    dsimp only
    split
    · split <;> rfl
    · exact restarted (none :: found)

theorem foldl_feed_append (bytes : Bytes) (found base : List (Option Char))
    (pending : Option Pending) :
    bytes.foldl feed ⟨found ++ base, pending⟩ =
      ⟨(bytes.foldl feed ⟨found, pending⟩).found ++ base,
        (bytes.foldl feed ⟨found, pending⟩).pending⟩ := by
  induction bytes generalizing found pending with
  | nil => rfl
  | cons byte rest ih =>
    rw [List.foldl_cons, feed_append, ih, List.foldl_cons]

/-- What is found after another byte is no plain character of another kind. -/
theorem notMem_feed (bounded : scanner.Bounded) {byte other : UInt8} (plain : IsPlain byte)
    (different : byte ≠ other) (absent : some (plainChar byte) ∉ scanner.found) :
    some (plainChar byte) ∉ (scanner.feed other).found := by
  have restarted {found : List (Option Char)} (absent : some (plainChar byte) ∉ found) :
      some (plainChar byte) ∉ (restart found other.toNat).found := by
    rw [restart]
    cases first : firstByte other.toNat with
    | none => exact List.not_mem_cons_of_ne_of_not_mem (Option.some_ne_none _) absent
    | some begun =>
      cases begun with
      | inr pending => exact absent
      | inl c =>
        unfold firstByte at first
        split_ifs at first with small <;>
          simp only [Option.some.injEq, Sum.inl.injEq, reduceCtorEq] at first
        subst first
        exact List.not_mem_cons_of_ne_of_not_mem (fun same =>
          different (eq_of_plainChar_eq plain.2 small (Option.some.inj same))) absent
  rw [feed]
  cases unfinished : scanner.pending with
  | none => exact restarted absent
  | some p =>
    dsimp only
    split
    next inside =>
      split
      next last =>
        have large := (bounded p unfinished).large inside.1 last
        exact List.not_mem_cons_of_ne_of_not_mem
          (fun same => ofNat_ne_plainChar plain large (Option.some.inj same).symm) absent
      · exact absent
    · exact restarted (List.not_mem_cons_of_ne_of_not_mem (Option.some_ne_none _) absent)

theorem notMem_foldl (bounded : scanner.Bounded) {byte : UInt8} (plain : IsPlain byte)
    {bytes : Bytes} (absent : byte ∉ bytes) (before : some (plainChar byte) ∉ scanner.found) :
    some (plainChar byte) ∉ (bytes.foldl Scanner.feed scanner).found := by
  induction bytes generalizing scanner with
  | nil => exact before
  | cons other rest ih =>
    rw [List.mem_cons, not_or] at absent
    exact ih (bounded.feed other) absent.2 (notMem_feed bounded plain absent.1 before)

/-- Every byte leaves something: a character, a gap or an unfinished character. -/
theorem finish_feed_ne_nil (scanner : Scanner) (byte : UInt8) :
    (scanner.feed byte).finish ≠ [] := by
  have restarted (found : List (Option Char)) : (restart found byte.toNat).finish ≠ [] := by
    rw [restart]
    rcases firstByte byte.toNat with _ | (_ | _) <;> simp [finish]
  rw [feed]
  cases scanner.pending with
  | none => exact restarted _
  | some p =>
    dsimp only
    split
    · split <;> simp [finish]
    · exact restarted _

end Scanner

/-- Decoding goes on after a plain byte as from the start. -/
theorem scan_append_cons {byte : UInt8} (plain : IsPlain byte) (front back : Bytes) :
    scan (front ++ byte :: back) = scan front ++ some (plainChar byte) :: scan back := by
  have base :=
    Scanner.foldl_feed_append back [] (some (plainChar byte) :: (scan front).reverse) none
  have whole : scan (front ++ byte :: back) = (back.foldl Scanner.feed
      ⟨some (plainChar byte) :: (scan front).reverse, none⟩).finish := by
    rw [scan, List.foldl_append, List.foldl_cons,
      Scanner.feed_plain (Scanner.bounded_start.foldl front) plain]
    rfl
  rw [List.nil_append] at base
  rw [whole, base, scan.eq_def back, Scanner.start, Scanner.finish, Scanner.finish]
  cases (back.foldl Scanner.feed ⟨[], none⟩).pending <;> simp

/-- A plain character is not found where its byte is not. -/
theorem plainChar_notMem_scan {byte : UInt8} (plain : IsPlain byte) {bytes : Bytes}
    (absent : byte ∉ bytes) : some (plainChar byte) ∉ scan bytes := by
  have found : some (plainChar byte) ∉ (bytes.foldl Scanner.feed .start).found :=
    Scanner.notMem_foldl Scanner.bounded_start plain absent List.not_mem_nil
  rw [scan, Scanner.finish]
  cases (bytes.foldl Scanner.feed .start).pending with
  | none => rwa [List.mem_reverse]
  | some pending =>
    rw [List.mem_reverse, List.mem_cons, not_or]
    exact ⟨Option.some_ne_none _, found⟩

/-- Bytes of any kind come to something. -/
theorem scan_eq_nil {bytes : Bytes} : scan bytes = [] ↔ bytes = [] := by
  refine ⟨fun nothing => ?_, fun none => none ▸ rfl⟩
  rcases List.eq_nil_or_concat bytes with none | ⟨front, last, rfl⟩
  · exact none
  · rw [List.concat_eq_append, scan, List.foldl_append, List.foldl_cons, List.foldl_nil] at nothing
    exact absurd nothing (Scanner.finish_feed_ne_nil _ last)

/-! ## Decoded bytes -/

theorem decodeLossyChars_append_cons {byte : UInt8} (plain : IsPlain byte) (front back : Bytes) :
    decodeLossyChars (front ++ byte :: back) =
      decodeLossyChars front ++ plainChar byte :: decodeLossyChars back := by
  rw [decodeLossyChars, scan_append_cons plain, List.map_append, List.map_cons]
  rfl

theorem decodeLossyChars_eq_nil {bytes : Bytes} : decodeLossyChars bytes = [] ↔ bytes = [] := by
  rw [decodeLossyChars, List.map_eq_nil_iff, scan_eq_nil]

/-- A plain character is found just where its byte is. -/
theorem plainChar_mem_iff {byte : UInt8} (plain : IsPlain byte) {bytes : Bytes} :
    plainChar byte ∈ decodeLossyChars bytes ↔ byte ∈ bytes := by
  constructor
  · intro inside
    by_contra absent
    obtain ⟨unit, member, same⟩ := List.mem_map.mp inside
    cases unit with
    | none => exact replacement_ne_plainChar plain same
    | some c =>
      rw [Option.getD_some] at same
      exact plainChar_notMem_scan plain absent (same ▸ member)
  · intro inside
    obtain ⟨front, back, rfl⟩ := List.append_of_mem inside
    rw [decodeLossyChars_append_cons plain]
    exact List.mem_append_right _ List.mem_cons_self

/-- Cutting at a plain byte and decoding the pieces comes to cutting what was decoded. -/
theorem splitAt_decodeLossyChars {byte : UInt8} (plain : IsPlain byte) (bytes : Bytes) :
    Text.splitAt (plainChar byte) (decodeLossyChars bytes) =
      (Text.splitAt byte bytes).map decodeLossyChars := by
  -- The first piece has no separator, and behind the separator the bytes are fewer.
  induction size : bytes.length using Nat.strongRecOn generalizing bytes with
  | ind length ih =>
    by_cases inside : byte ∈ bytes
    · obtain ⟨front, back, rfl, absent⟩ := List.eq_append_cons_of_mem inside
      have first : plainChar byte ∉ decodeLossyChars front := by
        rwa [plainChar_mem_iff plain]
      have shorter : back.length < length := by
        rw [← size, List.length_append, List.length_cons]
        omega
      rw [decodeLossyChars_append_cons plain, Text.splitAt_append_cons, Text.splitAt_append_cons,
        Text.splitAt_of_notMem first, Text.splitAt_of_notMem absent, ih _ shorter back rfl,
        List.map_append, List.map_singleton]
    · have single : plainChar byte ∉ decodeLossyChars bytes := by
        rwa [plainChar_mem_iff plain]
      rw [Text.splitAt_of_notMem single, Text.splitAt_of_notMem inside, List.map_singleton]

/-- The first character is a plain one just if the first byte is. -/
theorem head?_decodeLossyChars {byte : UInt8} (plain : IsPlain byte) (bytes : Bytes) :
    (decodeLossyChars bytes).head? = some (plainChar byte) ↔ bytes.head? = some byte := by
  constructor
  · intro first
    have inside := (plainChar_mem_iff plain).mp (List.mem_of_mem_head? first)
    obtain ⟨front, back, rfl, absent⟩ := List.eq_append_cons_of_mem inside
    by_cases empty : front = []
    · rw [empty, List.nil_append, List.head?_cons]
    -- Otherwise the character would come of the bytes in front of the first such byte.
    · refine absurd ((plainChar_mem_iff plain).mp ?_) absent
      have some := mt decodeLossyChars_eq_nil.mp empty
      rw [decodeLossyChars_append_cons plain, List.head?_append_of_ne_nil _ some] at first
      exact List.mem_of_mem_head? first
  · intro first
    obtain ⟨rest, rfl⟩ := List.head?_eq_some_iff.mp first
    exact congrArg List.head? (decodeLossyChars_append_cons plain [] rest)

/-- Only plain text is decoded to plain text. -/
theorem decodeLossyChars_eq_plain {text : Bytes} (plain : ∀ byte ∈ text, IsPlain byte)
    {bytes : Bytes} : decodeLossyChars bytes = text.map plainChar ↔ bytes = text := by
  induction text generalizing bytes with
  | nil => exact decodeLossyChars_eq_nil
  | cons byte rest ih =>
    rw [List.forall_mem_cons] at plain
    constructor
    · intro same
      have first := (head?_decodeLossyChars plain.1 bytes).mp (by rw [same]; rfl)
      obtain ⟨others, rfl⟩ := List.head?_eq_some_iff.mp first
      have split := decodeLossyChars_append_cons plain.1 [] others
      rw [List.nil_append] at split
      rw [split] at same
      rw [(ih plain.2).mp (List.cons.inj same).2]
    · rintro rfl
      have split := decodeLossyChars_append_cons plain.1 [] rest
      rw [List.nil_append] at split
      rw [split, (ih plain.2).mpr rfl]
      rfl

end ReleasePacker.Utf8
