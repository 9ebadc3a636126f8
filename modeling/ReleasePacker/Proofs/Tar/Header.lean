import Mathlib.Algebra.Group.Nat.Defs
import Mathlib.Data.List.TakeWhile
import Mathlib.Tactic.Common
import ReleasePacker.Proofs.Text.Trimming
import ReleasePacker.Proofs.Text.Utf8
import ReleasePacker.Tar.Writer

/-!
# Reading the headers that are written

Each field of a written header stands at its place with its width, and holds what it was given: text
up to a zero byte, octal text, or a binary number. The checksum is computed with blanks in its own
field, so it is the same when it has been filled in.
-/

namespace ReleasePacker.Tar

/-! ## Octal text -/

/-- What reading a number asks of an octal digit. -/
theorem octal_digit : ∀ d < 8, Text.isBlank d.digitChar = false ∧ d.digitChar ≠ '+' ∧
    '0' ≤ d.digitChar ∧ d.digitChar ≤ '9' ∧ d.digitChar.toNat - 48 < 8 ∧
    Utf8.encodeChar d.digitChar = [d.digitChar.toNat.toUInt8] ∧
    d.digitChar.toNat.toUInt8 ≠ 0 ∧ d.digitChar.toNat.toUInt8 &&& 0x80 = 0 := by
  decide

/-- Characters that are octal digits. -/
def AreOctal (chars : List Char) : Prop := ∀ c ∈ chars, ∃ d < 8, c = Nat.digitChar d

theorem areOctal_toDigits (value : Nat) : AreOctal (Nat.toDigits 8 value) := by
  induction value using Nat.strongRecOn with
  | ind value ih =>
    intro c member
    rw [Nat.toDigits_eq_if (by decide)] at member
    split at member
    next small => exact ⟨value, small, List.mem_singleton.mp member⟩
    next large =>
      rcases List.mem_append.mp member with front | last
      · exact ih (value / 8) (by omega) c front
      · exact ⟨value % 8, by omega, List.mem_singleton.mp last⟩

/-- The octal digits of a number, at least `width` of them, as characters. -/
def octalText (width value : Nat) : List Char :=
  List.replicate (width - (Nat.toDigits 8 value).length) '0' ++ Nat.toDigits 8 value

theorem areOctal_octalText (width value : Nat) : AreOctal (octalText width value) := by
  intro c member
  rcases List.mem_append.mp member with front | back
  · exact ⟨0, by decide, List.eq_of_mem_replicate front⟩
  · exact areOctal_toDigits value c back

theorem octalDigits_eq_map (width value : Nat) :
    octalDigits width value = (octalText width value).map fun c => c.toNat.toUInt8 := by
  rw [octalDigits, octalText, List.map_append, List.map_replicate, List.length_map]
  rfl

theorem octalDigits_eq_encode (width value : Nat) :
    octalDigits width value = Utf8.encode (String.ofList (octalText width value)) := by
  rw [octalDigits_eq_map, Utf8.encode, String.toList_ofList]
  have octal := areOctal_octalText width value
  generalize octalText width value = chars at octal
  induction chars with
  | nil => rfl
  | cons c rest ih =>
    obtain ⟨d, small, rfl⟩ := octal c List.mem_cons_self
    obtain ⟨-, -, -, -, -, single, -⟩ := octal_digit d small
    rw [List.map_cons, List.flatMap_cons, single,
      ih fun c member => octal c (List.mem_cons_of_mem _ member)]
    rfl

/-- Octal text takes as many bytes as it is asked to, if the number is not too large for that. -/
theorem length_octalDigits {width value : Nat} (positive : 0 < width) (small : value < 8 ^ width) :
    (octalDigits width value).length = width := by
  have short := (Nat.length_toDigits_le_iff (by decide) positive).mpr small
  rw [octalDigits, List.length_append, List.length_replicate, List.length_map]
  omega

/-- No byte of octal text ends a field early, and none sets the mark of a binary number. -/
theorem octalDigits_bytes {width value : Nat} {byte : UInt8}
    (member : byte ∈ octalDigits width value) : byte ≠ 0 ∧ byte &&& 0x80 = 0 := by
  rw [octalDigits_eq_map] at member
  obtain ⟨c, inside, rfl⟩ := List.mem_map.mp member
  obtain ⟨d, small, rfl⟩ := areOctal_octalText width value c inside
  obtain ⟨-, -, -, -, -, -, bits⟩ := octal_digit d small
  exact bits

theorem untilZero_append {front : Bytes} (nonzero : 0 ∉ front) (back : Bytes) :
    untilZero (front ++ 0 :: back) = front := by
  rw [untilZero, List.takeWhile_append_of_pos, List.takeWhile_cons_of_neg, List.append_nil]
  · simp
  · intro byte member
    exact decide_eq_true fun zero => nonzero (zero ▸ member)

theorem trimChars_of_areOctal {chars : List Char} (octal : AreOctal chars) :
    Text.trimChars chars = chars := by
  refine (Text.isTrimmed_of_visible fun c member => ?_).trimChars_eq
  obtain ⟨d, small, rfl⟩ := octal c member
  exact (octal_digit d small).1

theorem foldlM_step_of_areOctal {chars : List Char} (octal : AreOctal chars) (value : Nat) :
    chars.foldlM (digits?.step 8) value = some (Nat.ofDigitChars 8 chars value) := by
  induction chars generalizing value with
  | nil => rfl
  | cons c rest ih =>
    obtain ⟨d, small, rfl⟩ := octal c List.mem_cons_self
    obtain ⟨-, -, lower, upper, digit, -⟩ := octal_digit d small
    have one : digits?.step 8 value d.digitChar = some (8 * value + (d.digitChar.toNat - 48)) := by
      rw [digits?.step, if_pos ⟨lower, upper, digit⟩, Nat.mul_comm]
    rw [List.foldlM_cons, one, Nat.ofDigitChars_cons]
    exact ih (fun c member => octal c (List.mem_cons_of_mem _ member)) _

theorem digits?_octalText {bound value : Nat} (bounded : value ≤ bound) (width : Nat) :
    digits? 8 bound (octalText width value) = some value := by
  have octal := areOctal_octalText width value
  have nonempty : octalText width value ≠ [] :=
    List.append_ne_nil_of_right_ne_nil _ Nat.toDigits_ne_nil
  have number : Nat.ofDigitChars 8 (octalText width value) 0 = value := by
    rw [octalText, Nat.ofDigitChars_append, Nat.ofDigitChars_replicate_zero, Nat.mul_zero,
      Nat.ofDigitChars_toDigits (by decide) (by decide)]
  generalize octalText width value = chars at octal nonempty number
  have unsigned (rest : List Char) : chars ≠ '+' :: rest := by
    rintro rfl
    obtain ⟨d, small, plus⟩ := octal '+' List.mem_cons_self
    exact (octal_digit d small).2.1 plus.symm
  rw [digits?, if_neg (by rwa [List.isEmpty_iff]), foldlM_step_of_areOctal octal, number]
  · exact if_pos bounded
  · exact unsigned

/-- A number in octal text is read back. -/
theorem octal?_octalDigits {value : Nat} (bounded : value ≤ maxNumber) (width : Nat) :
    octal? (octalDigits width value ++ [0]) = some value := by
  have text : Utf8.decode? (untilZero (octalDigits width value ++ [0])) =
      some (String.ofList (octalText width value)) := by
    rw [untilZero_append fun member => (octalDigits_bytes member).1 rfl, octalDigits_eq_encode,
      Utf8.decode?_encode]
  rw [octal?, text, Option.bind_eq_bind, Option.bind_some, String.toList_ofList,
    trimChars_of_areOctal (areOctal_octalText width value), digits?_octalText bounded]

/-! ## Number fields -/

theorem length_numberField {width : Nat} (wide : 1 < width) (value : Nat) :
    (numberField width value).length = width := by
  rw [numberField]
  split
  next short =>
    have least : width - 1 ≤ (octalDigits (width - 1) value).length := by
      rw [octalDigits, List.length_append, List.length_replicate]
      omega
    rw [List.length_append, List.length_singleton]
    omega
  next => rw [List.length_cons, List.length_map, List.length_reverse, List.length_range]; omega

/-- The bytes of a number by their places make it up again, as far as the places go. -/
theorem foldl_places (value places start : Nat) :
    ((List.range places).reverse.map fun place => (value / Nat.pow 256 place).toUInt8).foldl
      (fun sum byte => sum * 256 + byte.toNat) start =
    start * 256 ^ places + value % 256 ^ places := by
  induction places generalizing start with
  | zero => simp [Nat.mod_one]
  | succ places ih =>
    -- The highest place comes first, and what is below it is a number with one place less.
    have byte : (value / Nat.pow 256 places).toUInt8.toNat = value / 256 ^ places % 256 := by
      rw [Nat.toUInt8, UInt8.toNat_ofNat', Nat.pow_eq]
    rw [List.range_succ, List.reverse_append, List.reverse_singleton, List.singleton_append,
      List.map_cons, List.foldl_cons, byte, ih, Nat.mod_pow_succ, Nat.add_mul, Nat.pow_succ,
      Nat.mul_assoc, Nat.mul_comm 256, Nat.mul_comm (value / 256 ^ places % 256)]
    omega

/-- A number in the field of a size is read back. -/
theorem number?_numberField {value : Nat} (bounded : value ≤ maxNumber) :
    number? (numberField 12 value) = some value := by
  rw [numberField]
  split
  next short =>
    have octal := octal?_octalDigits bounded 11
    have marks {byte : UInt8} (member : byte ∈ octalDigits 11 value) := (octalDigits_bytes member).2
    rcases digits : octalDigits 11 value with _ | ⟨first, rest⟩
    · have least : 11 ≤ (octalDigits 11 value).length := by
        rw [octalDigits, List.length_append, List.length_replicate]
        omega
      rw [digits] at least
      exact absurd least (by decide)
    · have mark : first &&& 0x80 = 0 := marks (by rw [digits]; exact List.mem_cons_self)
      rw [digits, List.cons_append] at octal
      rw [List.cons_append, number?, if_pos mark, octal]
  next long =>
    -- Only the last eight bytes are read, and a number within bounds has no more.
    have last : (List.range 11).reverse.drop 3 = (List.range 8).reverse := by decide
    have length : ((0x80 : UInt8) :: (List.range (12 - 1)).reverse.map fun place =>
        (value / Nat.pow 256 place).toUInt8).length = 12 := by simp
    have small : value < 256 ^ 8 := by
      rw [maxNumber] at bounded
      exact Nat.lt_of_le_of_lt bounded (by decide)
    rw [number?, if_neg (by decide), length, List.drop_succ_cons, ← List.map_drop, last,
      foldl_places, Nat.zero_mul, Nat.zero_add, Nat.mod_eq_of_lt small]

/-! ## The places of the fields -/

theorem length_padTo (length : Nat) (bytes : Bytes) : (padTo length bytes).length = length := by
  rw [padTo, List.length_append, List.length_take, List.length_replicate]
  omega

theorem field_here {front : Bytes} {length : Nat} (width : front.length = length) (back : Bytes) :
    field (front ++ back) 0 length = front := by
  rw [field, List.drop_zero, ← width, List.take_left]

theorem field_skip {front : Bytes} {width offset : Nat} (before : front.length = width)
    (past : width ≤ offset) (back : Bytes) (length : Nat) :
    field (front ++ back) offset length = field back (offset - width) length := by
  rw [field, field, List.drop_append, before, List.drop_eq_nil_of_le (by omega), List.nil_append]

/-- The parts of a header, as they stand one after another. -/
theorem headerWith_eq {sum : Bytes} (width : sum.length = 8) (name : Bytes) (flag : UInt8)
    (mode size : Nat) :
    headerWith sum name flag mode size =
      padTo nameField name ++ (numberField 8 mode ++ (numberField 8 0 ++ (numberField 8 0 ++
        (numberField 12 size ++ (numberField 12 0 ++ (sum ++ ([flag] ++ (padTo 100 [] ++
          (gnuMagic ++ List.replicate 247 0))))))))) := by
  have magic : gnuMagic.length = 8 := by decide
  have length : (padTo nameField name ++ numberField 8 mode ++ numberField 8 0 ++ numberField 8 0 ++
      numberField 12 size ++ numberField 12 0 ++ sum ++ [flag] ++ padTo 100 [] ++ gnuMagic).length =
      265 := by
    simp only [List.length_append, length_padTo, nameField, length_numberField, Nat.reduceLT, width,
      magic, List.length_singleton]
  rw [headerWith, padTo, length, List.take_of_length_le (by rw [length]; decide)]
  simp only [List.append_assoc, blockSize, Nat.reduceSub]

theorem length_headerWith (sum name : Bytes) (flag : UInt8) (mode size : Nat) :
    (headerWith sum name flag mode size).length = blockSize := by
  rw [headerWith, length_padTo]

section

variable {sum : Bytes} (width : sum.length = 8) (name : Bytes) (flag : UInt8) (mode size : Nat)

include width

theorem field_name : field (headerWith sum name flag mode size) 0 100 = padTo nameField name := by
  rw [headerWith_eq width]
  exact field_here (length_padTo _ _) _

theorem field_mode : field (headerWith sum name flag mode size) 100 8 = numberField 8 mode := by
  rw [headerWith_eq width, field_skip (length_padTo _ _) (by decide)]
  exact field_here (length_numberField (by decide) mode) _

theorem field_size : field (headerWith sum name flag mode size) 124 12 = numberField 12 size := by
  rw [headerWith_eq width, field_skip (length_padTo _ _) (by decide)]
  iterate 3 rw [field_skip (length_numberField (by decide) _) (by decide)]
  exact field_here (length_numberField (by decide) size) _

theorem field_sum : field (headerWith sum name flag mode size) 148 8 = sum := by
  rw [headerWith_eq width, field_skip (length_padTo _ _) (by decide)]
  iterate 5 rw [field_skip (length_numberField (by decide) _) (by decide)]
  exact field_here width _

theorem layout_headerWith : layout (headerWith sum name flag mode size) = .gnu := by
  have magic : field (headerWith sum name flag mode size) 257 8 = gnuMagic := by
    rw [headerWith_eq width, field_skip (length_padTo _ _) (by decide)]
    iterate 5 rw [field_skip (length_numberField (by decide) _) (by decide)]
    rw [field_skip width (by decide), field_skip List.length_singleton (by decide),
      field_skip (length_padTo _ _) (by decide)]
    exact field_here (by decide) _
  rw [layout, magic]
  decide

end

/-! ## The checksum -/

/-- What stands around the checksum in a header is the same for each checksum. -/
theorem exists_headerWith (name : Bytes) (flag : UInt8) (mode size : Nat) :
    ∃ front back : Bytes, front.length = 148 ∧ back.length = 355 ∧
      ∀ sum : Bytes, sum.length = 8 →
        headerWith sum name flag mode size = front ++ (sum ++ flag :: back) := by
  refine ⟨padTo nameField name ++ (numberField 8 mode ++ (numberField 8 0 ++ (numberField 8 0 ++
    (numberField 12 size ++ numberField 12 0)))), padTo 100 [] ++ (gnuMagic ++
      List.replicate 247 0), ?_, ?_, fun sum width => ?_⟩
  · simp only [List.length_append, length_padTo, nameField, length_numberField, Nat.reduceLT]
  · have magic : gnuMagic.length = 8 := by decide
    rw [List.length_append, length_padTo, List.length_append, magic, List.length_replicate]
  · rw [headerWith_eq width]
    simp only [List.append_assoc, List.singleton_append]

theorem foldl_sum_le (bytes : Bytes) (start : Nat) :
    bytes.foldl (fun total byte => total + byte.toNat) start ≤ start + 255 * bytes.length := by
  induction bytes generalizing start with
  | nil => exact Nat.le_refl _
  | cons byte rest ih =>
    have bound := byte.toNat_lt
    have others := ih (start + byte.toNat)
    rw [List.foldl_cons, List.length_cons]
    omega

/-- The checksum does not depend on what its own field holds, and it is small. -/
theorem checksum_headerWith (name : Bytes) (flag : UInt8) (mode size : Nat) :
    ∃ total < 8 ^ 7, ∀ sum : Bytes, sum.length = 8 →
      checksum (headerWith sum name flag mode size) = total := by
  obtain ⟨front, back, before, behind, parts⟩ := exists_headerWith name flag mode size
  refine ⟨(front ++ flag :: back).foldl (fun total byte => total + byte.toNat) (8 * 32), ?_,
    fun sum width => ?_⟩
  · have bound := foldl_sum_le (front ++ flag :: back) (8 * 32)
    rw [List.length_append, List.length_cons, before, behind] at bound
    omega
  · have both : (front ++ sum).length = 156 := by
      rw [List.length_append, before, width]
    rw [parts sum width, checksum, List.take_left' before, ← List.append_assoc,
      List.drop_left' both]

/-- The checksum field of a header. -/
def sumField (name : Bytes) (flag : UInt8) (mode size : Nat) : Bytes :=
  octalDigits 7 (checksum (headerWith (List.replicate 8 0x20) name flag mode size)) ++ [0]

theorem header_eq (name : Bytes) (flag : UInt8) (mode size : Nat) :
    header name flag mode size = headerWith (sumField name flag mode size) name flag mode size :=
  rfl

theorem length_sumField (name : Bytes) (flag : UInt8) (mode size : Nat) :
    (sumField name flag mode size).length = 8 := by
  obtain ⟨total, small, same⟩ := checksum_headerWith name flag mode size
  rw [sumField, same _ List.length_replicate, List.length_append,
    length_octalDigits (by decide) small, List.length_singleton]

theorem layout_header (name : Bytes) (flag : UInt8) (mode size : Nat) :
    layout (header name flag mode size) = .gnu := by
  rw [header_eq, layout_headerWith (length_sumField name flag mode size)]

/-- A header states its own checksum. -/
theorem checksum_header (name : Bytes) (flag : UInt8) (mode size : Nat) :
    octal? (field (header name flag mode size) 148 8) =
      some (checksum (header name flag mode size)) := by
  obtain ⟨total, small, same⟩ := checksum_headerWith name flag mode size
  have width := length_sumField name flag mode size
  have bounded : total ≤ maxNumber := Nat.le_trans (Nat.le_of_lt small) (by decide)
  rw [header_eq, field_sum width, same _ width, sumField, same _ List.length_replicate,
    octal?_octalDigits bounded]

theorem typeFlag_header (name : Bytes) (flag : UInt8) (mode size : Nat) :
    typeFlag (header name flag mode size) = flag := by
  obtain ⟨front, back, before, behind, parts⟩ := exists_headerWith name flag mode size
  have width := length_sumField name flag mode size
  have both : (front ++ sumField name flag mode size).length = 156 := by
    rw [List.length_append, before, width]
  rw [typeFlag, header_eq, parts _ width, ← List.append_assoc, List.drop_left' both,
    List.headD_cons]

/-- A name that fits the field and has no zero byte is read back. -/
theorem untilZero_padTo {name : Bytes} (nonzero : 0 ∉ name) (fits : name.length ≤ nameField) :
    untilZero (padTo nameField name) = name := by
  rw [padTo, List.take_of_length_le fits]
  rcases Nat.eq_zero_or_pos (nameField - name.length) with full | room
  · rw [full, List.replicate_zero, List.append_nil, untilZero, List.takeWhile_eq_self_iff]
    exact fun byte member => decide_eq_true fun zero => nonzero (zero ▸ member)
  · obtain ⟨more, same⟩ := Nat.exists_eq_add_of_lt room
    rw [same, Nat.zero_add, List.replicate_succ, untilZero_append nonzero]

theorem headerName_header {name : Bytes} (nonzero : 0 ∉ name) (fits : name.length ≤ nameField)
    (flag : UInt8) (mode size : Nat) : headerName (header name flag mode size) = name := by
  have width := length_sumField name flag mode size
  rw [headerName, layout_header, header_eq, field_name width, untilZero_padTo nonzero fits]
  rfl

end ReleasePacker.Tar
