import Ntsql.Foundation.ByteField
import Ntsql.Foundation.Fallible

/-! # Append-only files of fixed-width frames

A writer appends groups of frames; a scanner folds over the complete frames of
whatever prefix of the file survived. The groups that lie wholly within the
prefix are the ones it sees, and a torn group is reported by the offset where
it begins. -/

namespace Ntsql.FrameLog

variable {width : Nat}

/-- The bytes of frames written one after another. -/
def encode (frames : List (Bytes width)) : List UInt8 := frames.flatMap Vector.toList

/-- The first `count` frames of `bytes`, read one after another. -/
def readFrames (width : Nat) : Nat → List UInt8 → List (Bytes width)
  | 0, _ => []
  | count + 1, bytes =>
      Bytes.ofList width (bytes.take width) :: readFrames width count (bytes.drop width)

@[simp] theorem encode_nil : encode ([] : List (Bytes width)) = [] := rfl

@[simp] theorem encode_append (front back : List (Bytes width)) :
    encode (front ++ back) = encode front ++ encode back := by
  simp [encode]

@[simp] theorem encode_singleton (frame : Bytes width) :
    encode [frame] = frame.toList := by
  simp [encode]

theorem encode_cons (frame : Bytes width) (frames : List (Bytes width)) :
    encode (frame :: frames) = frame.toList ++ encode frames := rfl

@[simp] theorem length_encode (frames : List (Bytes width)) :
    (encode frames).length = frames.length * width := by
  induction frames with
  | nil => simp
  | cons frame frames induction =>
      simp only [encode_cons, List.length_append, Vector.length_toList, induction,
        List.length_cons]
      ring

theorem readFrames_take_encode (frames : List (Bytes width)) {count cut : Nat}
    (whole : count * width ≤ cut) (written : count ≤ frames.length) :
    readFrames width count ((encode frames).take cut) = frames.take count := by
  induction frames generalizing count cut with
  | nil =>
      have none : count = 0 := by simpa using written
      simp [none, readFrames]
  | cons frame frames induction =>
      cases count with
      | zero => simp [readFrames]
      | succ count =>
          have room : width ≤ cut := by
            rw [Nat.add_mul] at whole
            omega
          have length : frame.toList.length = width := by simp
          have first :
              ((encode (frame :: frames)).take cut).take width = frame.toList := by
            rw [List.take_take, Nat.min_eq_left room, encode_cons,
              List.take_append_of_le_length (by omega), List.take_of_length_le (by omega)]
          have rest : ((encode (frame :: frames)).take cut).drop width =
              (encode frames).take (cut - width) := by
            rw [List.drop_take, encode_cons, List.drop_append_of_le_length (by omega),
              List.drop_of_length_le (by omega), List.nil_append]
          have remaining : count * width ≤ cut - width := by
            rw [Nat.add_mul] at whole
            omega
          rw [readFrames, first, rest, Bytes.ofList_toList,
            induction remaining (by simpa using written), List.take_succ_cons]

/-- Fold a scanner over frames laid out one after another from `offset`. -/
def scan {State Error : Type} (step : State → Bytes width → Nat → Except Error State) :
    Nat → List (Bytes width) → State → Except Error State
  | _, [], state => .ok state
  | offset, frame :: frames, state => do
      let next ← step state frame offset
      scan step (offset + width) frames next

theorem scan_append {State Error : Type}
    {step : State → Bytes width → Nat → Except Error State} {offset : Nat}
    {front : List (Bytes width)} {state middle : State}
    (reads : scan step offset front state = .ok middle) (back : List (Bytes width)) :
    scan step offset (front ++ back) state =
      scan step (offset + front.length * width) back middle := by
  induction front generalizing offset state with
  | nil =>
      cases reads
      simp
  | cons frame frames induction =>
      rcases Except.bind_ok_iff.mp reads with ⟨next, stepped, rest⟩
      have offsets : offset + width + frames.length * width =
          offset + (frame :: frames).length * width := by
        rw [List.length_cons]
        ring
      simp only [List.cons_append, scan, stepped, Except.ok_bind, induction rest, offsets]

/-- Where a file is cut back to: to the start of a torn group, else to the end
of the last complete frame. -/
def repairedLength (width : Nat) (pending : Option Nat) (offset length : Nat) :
    Option Nat :=
  match pending with
  | some start => some start
  | none => if 0 < length % width then some (offset + length / width * width) else none

theorem repairedLength_shift {pending : Option Nat} {offset length count : Nat}
    (positive : 0 < width) (within : count * width ≤ length) :
    repairedLength width pending (offset + count * width) (length - count * width) =
      repairedLength width pending offset length := by
  cases pending with
  | some start => rfl
  | none =>
      have split : length = count * width + (length - count * width) := by omega
      have remainder : length % width = (length - count * width) % width := by
        conv_lhs => rw [split, Nat.add_comm, Nat.add_mul_mod_self_right]
      have quotient : length / width = count + (length - count * width) / width := by
        conv_lhs => rw [split, Nat.add_comm, Nat.add_mul_div_right _ _ positive]
        exact Nat.add_comm _ _
      simp only [repairedLength, remainder, quotient, Nat.add_mul, Nat.add_assoc]

/-- A file format whose records are groups of frames. A scanner that starts
between groups reads a whole group in one known step, and a torn one into a
state that shows nothing of it but where it began. -/
structure Format (width : Nat) (State Group View Error : Type) where
  /-- The scanner's reaction to one frame at an offset. -/
  step : State → Bytes width → Nat → Except Error State
  /-- Where the group began whose frames are still missing. -/
  pending : State → Option Nat
  view : State → View
  frames : Group → List (Bytes width)
  admits : State → Group → Prop
  advance : State → Group → State
  frames_ne_nil : ∀ group, frames group ≠ []
  idle : ∀ state group, pending (advance state group) = none
  reads_whole : ∀ state group offset, pending state = none → admits state group →
    scan step offset (frames group) state = .ok (advance state group)
  reads_torn : ∀ state group offset count, pending state = none → admits state group →
    0 < count → count < (frames group).length → ∃ torn,
      scan step offset ((frames group).take count) state = .ok torn ∧
        pending torn = some offset ∧ view torn = view state

namespace Format

variable {State Group View Error : Type} (format : Format width State Group View Error)

def size (group : Group) : Nat := (format.frames group).length * width

def sizes (groups : List Group) : Nat := (groups.map format.size).sum

/-- The bytes of groups written one after another. -/
def write (groups : List Group) : List UInt8 := encode (groups.flatMap format.frames)

/-- The groups that lie wholly within the first `length` bytes. -/
def wholeWithin : List Group → Nat → List Group
  | [], _ => []
  | group :: groups, length =>
      if format.size group ≤ length then
        group :: wholeWithin groups (length - format.size group)
      else
        []

/-- Each group is admitted by the state the earlier ones lead to. -/
def Readable : State → List Group → Prop
  | _, [] => True
  | state, group :: groups => format.admits state group ∧
      Readable (format.advance state group) groups

theorem readable_append {state : State} {front back : List Group} :
    format.Readable state (front ++ back) ↔
      format.Readable state front ∧
        format.Readable (front.foldl format.advance state) back := by
  induction front generalizing state with
  | nil => simp [Readable]
  | cons group groups induction => simp [Readable, induction, and_assoc]

theorem invariant_of_readable {invariant : State → Prop}
    (preserved : ∀ state group, invariant state → format.admits state group →
      invariant (format.advance state group)) {state : State} {groups : List Group}
    (readable : format.Readable state groups) (holds : invariant state) :
    invariant (groups.foldl format.advance state) := by
  induction groups generalizing state with
  | nil => exact holds
  | cons group groups induction =>
      exact induction readable.2 (preserved state group holds readable.1)

@[simp] theorem length_write (groups : List Group) :
    (format.write groups).length = format.sizes groups := by
  induction groups with
  | nil => simp [write, sizes]
  | cons group groups induction =>
      have rest : (format.write (group :: groups)).length =
          format.size group + (format.write groups).length := by
        simp [write, size]
      rw [rest, induction]
      simp [sizes]

theorem wholeWithin_all (groups : List Group) {length : Nat}
    (room : format.sizes groups ≤ length) :
    format.wholeWithin groups length = groups := by
  induction groups generalizing length with
  | nil => rfl
  | cons group groups induction =>
      have total :
          format.sizes (group :: groups) = format.size group + format.sizes groups := by
        simp [sizes]
      rw [wholeWithin, if_pos (by omega), induction (by omega)]

theorem write_append (front back : List Group) :
    format.write (front ++ back) = format.write front ++ format.write back := by
  simp [write]

theorem wholeWithin_prefix (groups : List Group) (length : Nat) :
    ∃ rest, groups = format.wholeWithin groups length ++ rest := by
  induction groups generalizing length with
  | nil => exact ⟨[], rfl⟩
  | cons group groups induction =>
      rw [wholeWithin]
      split
      · rcases induction (length - format.size group) with ⟨rest, split⟩
        exact ⟨rest, by rw [List.cons_append, ← split]⟩
      · exact ⟨group :: groups, rfl⟩

theorem sizes_wholeWithin_le (groups : List Group) (length : Nat) :
    format.sizes (format.wholeWithin groups length) ≤ length := by
  induction groups generalizing length with
  | nil => simp [wholeWithin, sizes]
  | cons group groups induction =>
      rw [wholeWithin]
      split
      · have rest := induction (length - format.size group)
        have total :
            format.sizes
              (group :: format.wholeWithin groups (length - format.size group)) =
            format.size group +
              format.sizes (format.wholeWithin groups (length - format.size group)) := by
          simp [sizes]
        omega
      · simp [sizes]

theorem readable_wholeWithin {state : State} {groups : List Group}
    (readable : format.Readable state groups) (length : Nat) :
    format.Readable state (format.wholeWithin groups length) := by
  rcases format.wholeWithin_prefix groups length with ⟨rest, split⟩
  rw [split] at readable
  exact (format.readable_append.mp readable).1

theorem write_wholeWithin_prefix (groups : List Group) (length : Nat) :
    format.write (format.wholeWithin groups length) <+: format.write groups := by
  rcases format.wholeWithin_prefix groups length with ⟨rest, split⟩
  refine ⟨format.write rest, ?_⟩
  rw [← write_append, ← split]

theorem take_wholeWithin {region : List UInt8} {groups : List Group}
    (written : region <+: format.write groups) :
    region.take (format.sizes (format.wholeWithin groups region.length)) =
      format.write (format.wholeWithin groups region.length) := by
  have within : (format.write (format.wholeWithin groups region.length)).length ≤
      region.length := by
    rw [length_write]
    exact format.sizes_wholeWithin_le groups region.length
  have kept := List.prefix_of_prefix_length_le
    (format.write_wholeWithin_prefix groups region.length) written within
  rw [← length_write]
  exact (List.prefix_iff_eq_take.mp kept).symm

theorem readFrames_region {region : List UInt8} {groups : List Group}
    (written : region <+: format.write groups) :
    readFrames width (region.length / width) region =
      (groups.flatMap format.frames).take (region.length / width) := by
  have whole : region.length / width * width ≤ region.length := Nat.div_mul_le_self _ _
  have bound := written.length_le
  have count : region.length / width ≤ (groups.flatMap format.frames).length := by
    have total :
        (format.write groups).length = (groups.flatMap format.frames).length * width :=
      length_encode _
    rw [total] at bound
    exact Nat.div_le_of_le_mul (by rw [Nat.mul_comm]; exact bound)
  have region_eq := List.prefix_iff_eq_take.mp written
  conv_lhs =>
    arg 3
    rw [region_eq]
  exact readFrames_take_encode _ whole count

/-- A state between groups reads every prefix of a readable file: it shows the
groups that are wholly there and cuts the file back to their end. -/
theorem scan_cut (positive : 0 < width) {groups : List Group} {state : State}
    (offset : Nat) {cut : Nat} (idle : format.pending state = none)
    (readable : format.Readable state groups) (within : cut ≤ format.sizes groups) :
    ∃ final,
      scan format.step offset ((groups.flatMap format.frames).take (cut / width)) state =
        .ok final ∧
      format.view final =
        format.view ((format.wholeWithin groups cut).foldl format.advance state) ∧
      repairedLength width (format.pending final) offset cut =
        if cut = format.sizes (format.wholeWithin groups cut) then none
        else some (offset + format.sizes (format.wholeWithin groups cut)) := by
  induction groups generalizing state offset cut with
  | nil =>
      have empty : cut = 0 := by simpa [sizes] using within
      refine ⟨state, by simp [scan], by simp [wholeWithin], ?_⟩
      simp [empty, idle, repairedLength, wholeWithin, sizes]
  | cons group groups induction =>
      have total :
          format.sizes (group :: groups) = format.size group + format.sizes groups := by
        simp [sizes]
      by_cases room : format.size group ≤ cut
      · have frames : (format.frames group).length ≤ cut / width :=
          (Nat.le_div_iff_mul_le positive).mpr room
        have rest : cut / width - (format.frames group).length =
            (cut - format.size group) / width := by
          rw [size, Nat.mul_comm, Nat.sub_mul_div]
        have reads := format.reads_whole state group offset idle readable.1
        rcases induction (offset + format.size group) (format.idle state group) readable.2
          (by omega : cut - format.size group ≤ format.sizes groups) with
          ⟨final, scanned, viewed, repaired⟩
        have whole : format.wholeWithin (group :: groups) cut =
            group :: format.wholeWithin groups (cut - format.size group) := by
          rw [wholeWithin, if_pos room]
        have wholeSize : format.sizes (format.wholeWithin (group :: groups) cut) =
            format.size group + format.sizes
              (format.wholeWithin groups (cut - format.size group)) := by
          simp [whole, sizes]
        refine ⟨final, ?_, ?_, ?_⟩
        · rw [List.flatMap_cons, List.take_append, List.take_of_length_le frames,
            scan_append reads, rest]
          exact scanned
        · rw [viewed, whole, List.foldl_cons]
        · rw [← repairedLength_shift positive room]
          change repairedLength width (format.pending final) (offset + format.size group)
            (cut - format.size group) = _
          rw [repaired, wholeSize, ← Nat.add_assoc]
          have exact : cut - format.size group =
              format.sizes (format.wholeWithin groups (cut - format.size group)) ↔
              cut = format.size group +
                format.sizes (format.wholeWithin groups (cut - format.size group)) := by
            omega
          simp only [exact]
      · have frames : cut / width < (format.frames group).length :=
          (Nat.div_lt_iff_lt_mul positive).mpr (by simpa [size] using room)
        have whole : format.wholeWithin (group :: groups) cut = [] := by
          rw [wholeWithin, if_neg room]
        have taken : ((group :: groups).flatMap format.frames).take (cut / width) =
            (format.frames group).take (cut / width) := by
          rw [List.flatMap_cons, List.take_append_of_le_length (by omega)]
        rw [taken, whole]
        by_cases started : 0 < cut / width
        · rcases format.reads_torn state group offset (cut / width) idle
            readable.1 started frames with ⟨torn, scanned, pending, viewed⟩
          have nonzero : cut ≠ 0 := by
            intro zero
            simp [zero] at started
          refine ⟨torn, scanned, viewed, ?_⟩
          simp [repairedLength, pending, sizes, nonzero]
        · have none : cut / width = 0 := Nat.eq_zero_of_not_pos started
          have short : cut % width = cut :=
            Nat.mod_eq_of_lt ((Nat.div_eq_zero_iff_lt positive).mp none)
          refine ⟨state, by simp [none, scan], rfl, ?_⟩
          simp only [repairedLength, idle, none, short, sizes, List.map_nil, List.sum_nil,
            Nat.zero_mul, Nat.add_zero]
          by_cases zero : cut = 0
          · simp [zero]
          · rw [if_pos (by omega), if_neg zero]

end Format

end Ntsql.FrameLog
