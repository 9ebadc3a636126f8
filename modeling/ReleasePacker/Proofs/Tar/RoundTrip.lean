import ReleasePacker.Proofs.Tar.Header
import ReleasePacker.Tar.Reader

/-!
# Reading the archives that are written

The reader meets the blocks of one file after another, in the order in which they were written. A
name that does not fit its header comes before it as a member of its own and is not taken for a
file. So the files are found with their names and contents, and the list ends properly.
-/

namespace ReleasePacker.Tar

/-- A written file as the reader meets it. -/
def Member.entry (member : Member) : Entry where
  name := Utf8.encode member.name
  flag := 0x30
  layout := .gnu
  mode := number? (numberField 8 member.mode)
  size := member.content.length
  data := member.content

theorem length_header (name : Bytes) (flag : UInt8) (mode size : Nat) :
    (header name flag mode size).length = blockSize := by
  rw [header_eq, length_headerWith]

theorem length_filled (data : Bytes) : (filled data).length = filledSize data.length := by
  rw [filled, List.length_append, List.length_replicate, filledSize, blockSize]
  omega

theorem take_filled (data rest : Bytes) : (filled data ++ rest).take data.length = data := by
  rw [filled, List.append_assoc, List.take_left]

/-- A written header is accepted and states the size of the data. -/
theorem readHeader_header {announced : Announced} (unannounced : announced.records = none)
    {position size : Nat} (fits : position + blockSize + filledSize size ≤ maxNumber)
    (name : Bytes) {flag : UInt8} (mark : flag ≠ 0) (mode : Nat) (rest : Bytes) :
    readHeader true announced position (header name flag mode size ++ rest) =
      .block (header name flag mode size) size rest := by
  have length := length_header name flag mode size
  have nonempty : (header name flag mode size ++ rest).isEmpty = false := by
    rw [List.isEmpty_eq_false_iff]
    intro nothing
    rw [(List.append_eq_nil_iff.mp nothing).1] at length
    exact absurd length (by decide)
  have whole : ¬ (header name flag mode size ++ rest).length < blockSize := by
    rw [List.length_append, length]
    omega
  have block : (header name flag mode size ++ rest).take blockSize =
      header name flag mode size := by
    rw [← length, List.take_left]
  have marked : (header name flag mode size).all (· = 0) = false := by
    obtain ⟨front, back, -, -, parts⟩ := exists_headerWith name flag mode size
    rw [header_eq, parts _ (length_sumField name flag mode size), List.all_eq_false]
    exact ⟨flag, by simp, by simpa using mark⟩
  have bounded : size ≤ maxNumber ∧ size + 511 ≤ maxNumber := by
    rw [filledSize, blockSize] at fits
    omega
  have stated : number? (field (header name flag mode size) 124 12) = some size := by
    rw [header_eq, field_size (length_sumField name flag mode size),
      number?_numberField bounded.1]
  -- Only records in front of the header could state another size.
  have known : (if size = 0 then
      (announced.records.bind fun records => recordNumber? records "size").getD 0 else size) =
        size := by
    rw [unannounced]
    split
    next zero => exact zero.symm
    next => rfl
  have enough : ¬ (maxNumber < size + 511 ||
      maxNumber < position + blockSize + filledSize size) := by
    simp only [Bool.or_eq_true, decide_eq_true_eq, not_or]
    omega
  rw [readHeader, nonempty, if_neg Bool.false_ne_true, if_neg whole, block]
  dsimp only
  rw [marked, if_neg Bool.false_ne_true, checksum_header, if_neg (fun other => other rfl), stated]
  dsimp only
  rw [known, if_neg enough, ← length, List.drop_left]

/-! ## One member after another -/

/-- What is to be skipped before a member is there. -/
theorem not_length_lt_skip {skip : Nat} {front : Bytes} (before : front.length = skip)
    (rest : Bytes) : ¬ (front ++ rest).length < skip := by
  rw [List.length_append]
  omega

section

variable {fuel position skip size : Nat} {found : List Entry} {front : Bytes}
  (before : front.length = skip)
  (fits : position + skip + blockSize + filledSize size ≤ maxNumber)

include before fits

/-- A member that gives the next one its name. -/
theorem readFrom_longName (name : Bytes) (mode : Nat) (rest : Bytes) :
    readFrom true (fuel + 1) found {} position skip
        (front ++ (header name 0x4C mode size ++ rest)) =
      readFrom true fuel found { longName := some (rest.take size) } (position + skip + blockSize)
        (filledSize size) rest := by
  rw [readFrom, if_neg (not_length_lt_skip before _), List.drop_left' before]
  dsimp only
  rw [readHeader_header rfl fits name (by decide) mode rest]
  dsimp only
  rw [typeFlag_header, layout_header]
  rfl

/-- A regular file. -/
theorem readFrom_file {announced : Announced} (unannounced : announced.records = none)
    (name : Bytes) (mode : Nat) (rest : Bytes) :
    readFrom true (fuel + 1) found announced position skip
        (front ++ (header name 0x30 mode size ++ rest)) =
      readFrom true fuel
        ({ name := announced.nameOf (header name 0x30 mode size), flag := 0x30, layout := .gnu,
           mode := number? (numberField 8 mode), size, data := rest.take size } :: found)
        {} (position + skip + blockSize) (filledSize size) rest := by
  have stated : field (header name 0x30 mode size) 100 8 = numberField 8 mode := by
    rw [header_eq, field_mode (length_sumField name 0x30 mode size)]
  rw [readFrom, if_neg (not_length_lt_skip before _), List.drop_left' before]
  dsimp only
  rw [readHeader_header unannounced fits name (by decide) mode rest]
  dsimp only
  rw [typeFlag_header, layout_header, stated]
  rfl

end

/-- Two blocks of zeros end the list. -/
theorem readFrom_zeros {fuel skip : Nat} {front : Bytes} (before : front.length = skip)
    (found : List Entry) (position : Nat) :
    readFrom true (fuel + 1) found {} position skip (front ++ List.replicate (2 * blockSize) 0) =
      ⟨found.reverse, true⟩ := by
  have zeros : readHeader true {} (position + skip) (List.replicate (2 * blockSize) 0) = .done := by
    have nonempty : (List.replicate (2 * blockSize) (0 : UInt8)).isEmpty = false := by
      rw [List.isEmpty_eq_false_iff]
      exact List.ne_nil_of_length_pos (by rw [List.length_replicate]; decide)
    have whole : ¬ (List.replicate (2 * blockSize) (0 : UInt8)).length < blockSize := by
      rw [List.length_replicate]
      decide
    have blank : ((List.replicate (2 * blockSize) (0 : UInt8)).take blockSize).all (· = 0) =
        true := by
      rw [List.take_replicate, List.all_eq_true]
      exact fun byte member => decide_eq_true (List.eq_of_mem_replicate member)
    rw [readHeader, nonempty, if_neg Bool.false_ne_true, if_neg whole]
    dsimp only
    rw [blank, if_pos rfl]
  rw [readFrom, if_neg (not_length_lt_skip before _), List.drop_left' before]
  dsimp only
  rw [zeros]
  rfl

/-! ## Whole files -/

/-- A name that fits a header is not cut. -/
theorem shortName_of_fits {name : String} (fits : (Utf8.encode name).length ≤ nameField) :
    shortName name = Utf8.encode name := by
  have whole (taken : Bytes) (chars : List Char)
      (room : (taken ++ chars.flatMap Utf8.encodeChar).length ≤ nameField) :
      chars.foldl shortName.step (taken, false) =
        (taken ++ chars.flatMap Utf8.encodeChar, false) := by
    induction chars generalizing taken with
    | nil => rw [List.foldl_nil, List.flatMap_nil, List.append_nil]
    | cons c rest ih =>
      rw [List.flatMap_cons, ← List.append_assoc] at room
      have inside : ¬ nameField < (taken ++ Utf8.encodeChar c).length := by
        rw [List.length_append] at room
        omega
      have step : shortName.step (taken, false) c = (taken ++ Utf8.encodeChar c, false) := by
        simp only [shortName.step, Bool.false_or, decide_eq_true_eq, if_neg inside]
      rw [List.foldl_cons, step, ih _ room, List.flatMap_cons, List.append_assoc]
  rw [shortName, whole [] name.toList fits]
  rfl

/-- How many headers a file is written with. -/
def Member.headers (member : Member) : Nat :=
  if (Utf8.encode member.name).length ≤ nameField then 1 else 2

/-- The blocks of one file are read as that file; its data is still to be skipped. -/
theorem readFrom_blocks {member : Member} (nonzero : '\x00' ∉ member.name.toList)
    {position skip : Nat} {front : Bytes} (before : front.length = skip)
    (fits : position + skip + member.blocks.length ≤ maxNumber) (fuel : Nat) (found : List Entry)
    (rest : Bytes) :
    blockSize * member.headers ≤ member.blocks.length ∧
    ∃ position', position' + filledSize member.content.length =
        position + skip + member.blocks.length ∧
      readFrom true (fuel + member.headers) found {} position skip
          (front ++ (member.blocks ++ rest)) =
        readFrom true fuel (member.entry :: found) {} position' (filledSize member.content.length)
          (filled member.content ++ rest) := by
  have noZero := Utf8.zero_notMem_encode nonzero
  have data := take_filled member.content rest
  by_cases short : (Utf8.encode member.name).length ≤ nameField
  · have blocks : member.blocks = header (Utf8.encode member.name) 0x30 member.mode
        member.content.length ++ filled member.content := by
      rw [Member.blocks, if_pos short, List.nil_append, shortName_of_fits short]
    have length : member.blocks.length = blockSize + filledSize member.content.length := by
      rw [blocks, List.length_append, length_header, length_filled]
    have one : member.headers = 1 := if_pos short
    have named : ({} : Announced).nameOf (header (Utf8.encode member.name) 0x30 member.mode
        member.content.length) = Utf8.encode member.name :=
      headerName_header noZero short 0x30 member.mode member.content.length
    rw [one, length]
    rw [length] at fits
    refine ⟨by omega, position + skip + blockSize, by omega, ?_⟩
    rw [blocks, List.append_assoc, readFrom_file before (by omega) rfl, named, data]
    rfl
  -- The whole name comes first, as the data of a member of its own.
  · have blocks : member.blocks = header (Utf8.encode "././@LongLink") 0x4C 0o644
        ((Utf8.encode member.name).length + 1) ++ (filled (Utf8.encode member.name ++ [0]) ++
          (header (shortName member.name) 0x30 member.mode member.content.length ++
            filled member.content)) := by
      rw [Member.blocks, if_neg short]
      simp only [List.append_assoc]
    have longLength : (filled (Utf8.encode member.name ++ [0])).length =
        filledSize ((Utf8.encode member.name).length + 1) := by
      rw [length_filled, List.length_append, List.length_singleton]
    have length : member.blocks.length = blockSize +
        (filledSize ((Utf8.encode member.name).length + 1) +
          (blockSize + filledSize member.content.length)) := by
      rw [blocks]
      simp only [List.length_append, length_header, longLength, length_filled]
    have two : member.headers = 2 := if_neg short
    have announces (rest : Bytes) : (filled (Utf8.encode member.name ++ [0]) ++ rest).take
        ((Utf8.encode member.name).length + 1) = Utf8.encode member.name ++ [0] := by
      have taken := take_filled (Utf8.encode member.name ++ [0]) rest
      rwa [List.length_append, List.length_singleton] at taken
    have named (block : Bytes) : ({ longName := some (Utf8.encode member.name ++ [0]) } :
        Announced).nameOf block = Utf8.encode member.name := by
      rw [Announced.nameOf]
      dsimp only
      rw [List.getLast?_concat, if_pos rfl, List.dropLast_concat]
    rw [two, length]
    rw [length] at fits
    refine ⟨by omega, position + skip + blockSize +
      filledSize ((Utf8.encode member.name).length + 1) + blockSize, by omega, ?_⟩
    rw [blocks, List.append_assoc, List.append_assoc, List.append_assoc,
      readFrom_longName before (by omega), announces,
      readFrom_file longLength (by omega) rfl, named, data]
    rfl

/-- All files of an archive are read, and then the end is met. -/
theorem readFrom_flatMap {members : List Member}
    (nonzero : ∀ member ∈ members, '\x00' ∉ member.name.toList) {position skip fuel : Nat}
    {front : Bytes} (before : front.length = skip)
    (fits : position + skip + (write members).length ≤ maxNumber)
    (enough : (write members).length < blockSize * fuel) (found : List Entry) :
    readFrom true fuel found {} position skip (front ++ write members) =
      ⟨found.reverse ++ members.map Member.entry, true⟩ := by
  -- In front of each file is what is left of the one before, which is skipped.
  induction members generalizing position skip fuel front found with
  | nil =>
    have some : 0 < fuel := by
      rcases Nat.eq_zero_or_pos fuel with rfl | some
      · exact absurd enough (Nat.not_lt_zero _)
      · exact some
    obtain ⟨more, rfl⟩ := Nat.exists_eq_add_of_lt some
    have zeros := @readFrom_zeros (0 + more) _ _ before found position
    rw [List.map_nil, List.append_nil]
    exact zeros
  | cons member rest ih =>
    rw [List.forall_mem_cons] at nonzero
    have split : write (member :: rest) = member.blocks ++ write rest := by
      rw [write, List.flatMap_cons, List.append_assoc, write]
    rw [split, List.length_append] at fits enough
    have room : position + skip + member.blocks.length ≤ maxNumber := by omega
    obtain ⟨covered, -, -⟩ := readFrom_blocks nonzero.1 before room 0 found []
    have more : fuel = fuel - member.headers + member.headers := by
      rw [blockSize] at covered enough
      omega
    obtain ⟨-, position', place, step⟩ := readFrom_blocks nonzero.1 before room
      (fuel - member.headers) found (write rest)
    rw [split, more, step, ih nonzero.2 (length_filled _) (by omega)
      (by rw [blockSize] at covered enough ⊢; omega) (member.entry :: found)]
    rw [List.reverse_cons, List.append_assoc, List.singleton_append, List.map_cons]

/-- The files of an archive are read back, and the list ends properly. -/
theorem read_write {members : List Member}
    (nonzero : ∀ member ∈ members, '\x00' ∉ member.name.toList)
    (fits : (write members).length ≤ maxNumber) :
    read ⟨write members, true⟩ = ⟨members.map Member.entry, true⟩ := by
  have all := @readFrom_flatMap members nonzero 0 0 ((write members).length / blockSize + 2) [] rfl
    (by omega) (by rw [blockSize]; omega) []
  exact all

end ReleasePacker.Tar
