import Ntsql.Storage.Frame

/-! # Page layouts

How a page image of a fixed width is cut into chunks of eight bytes, and how a
scanner puts the chunks together again. -/

namespace Ntsql.Storage

open Bytes

inductive FilePageWidthError where
  | zero
  | notRepresentable (actual : Nat)
deriving DecidableEq

structure PageLayout where
  width : U64
  chunkCount : Nat
  finalChunkLen : Nat
deriving DecidableEq

namespace PageLayout

def forConst (width : Nat) : Except FilePageWidthError PageLayout := do
  rejectIf (width = 0) .zero
  rejectIf (u64Max < width + 7) (.notRepresentable width)
  return {
    width := Fin.ofNat (2 ^ 64) width
    chunkCount := (width + 7) / 8
    finalChunkLen := if width % 8 = 0 then 8 else width % 8 }

def logicalBytesForChunk (layout : PageLayout) (chunkIndex : Nat) : Nat :=
  if chunkIndex + 1 = layout.chunkCount then layout.finalChunkLen else 8

/-- `layout` is the one of a representable page width. -/
structure Fits (layout : PageLayout) (width : Nat) : Prop where
  positive : 0 < width
  representable : width + 7 ≤ u64Max
  width_eq : layout.width.val = width
  chunkCount_eq : layout.chunkCount = (width + 7) / 8
  finalChunkLen_eq : layout.finalChunkLen = if width % 8 = 0 then 8 else width % 8

theorem fits_of_forConst {width : Nat} {layout : PageLayout}
    (accepted : forConst width = .ok layout) : layout.Fits width := by
  simp only [forConst, Except.bind_ok_iff, rejectIf_ok_iff, Except.pure_ok_iff]
    at accepted
  rcases accepted with ⟨_, nonzero, _, representable, rfl⟩
  have bound : width < 2 ^ 64 := by
    simp only [u64Max] at representable
    omega
  exact {
    positive := Nat.pos_of_ne_zero nonzero
    representable := Nat.not_lt.mp representable
    width_eq := Nat.mod_eq_of_lt bound
    chunkCount_eq := rfl
    finalChunkLen_eq := rfl }

namespace Fits

variable {layout : PageLayout} {width : Nat} (fits : layout.Fits width)

include fits

theorem chunkCount_pos : 0 < layout.chunkCount := by
  have positive := fits.positive
  rw [fits.chunkCount_eq]
  omega

theorem width_ne_zero : layout.width ≠ 0 := by
  intro zero
  have positive := fits.positive
  have equal := fits.width_eq
  simp [zero] at equal
  omega

theorem chunk_end {index : Nat} (inPage : index < layout.chunkCount) :
    index * 8 + layout.logicalBytesForChunk index = min ((index + 1) * 8) width ∧
      layout.logicalBytesForChunk index ≤ 8 := by
  have count := fits.chunkCount_eq
  have final := fits.finalChunkLen_eq
  have positive := fits.positive
  by_cases last : index + 1 = layout.chunkCount
  · rw [logicalBytesForChunk, if_pos last, final]
    split <;> omega
  · rw [logicalBytesForChunk, if_neg last]
    omega

end Fits

/-! ## Chunks -/

section Chunks

variable {width : Nat} (layout : PageLayout)

/-- The chunk a writer lays out for one part of a page image. -/
def pageChunk (image : Bytes width) (chunkIndex : Nat) : Bytes 8 :=
  (Bytes.zero 8).copyFromSlice 0
    (image.slice (chunkIndex * 8) (layout.logicalBytesForChunk chunkIndex))

/-- The image a scanner holds after one more chunk. -/
def copyChunk (bytes : Bytes width) (chunkIndex : Nat) (chunk : Bytes 8) : Bytes width :=
  bytes.copyFromSlice (chunkIndex * 8)
    (chunk.slice 0 (layout.logicalBytesForChunk chunkIndex))

/-- The first `count` chunks of an image, the rest zero. -/
def chunkPrefix (image : Bytes width) (count : Nat) : Bytes width :=
  (Bytes.zero width).copyFromSlice 0 (image.slice 0 (count * 8))

end Chunks

section ChunkLemmas

variable {width : Nat} {layout : PageLayout}

theorem length_slice_of_within {image : Bytes width} {start length : Nat}
    (within : start + length ≤ width) : (image.slice start length).length = length := by
  rw [Bytes.length_slice]
  omega

theorem chunkPrefix_getElem? (image : Bytes width) (count index : Nat)
    (isLt : index < width) :
    (chunkPrefix image count)[index]? =
      if index < count * 8 then image[index]? else some 0 := by
  have length : (image.slice 0 (count * 8)).length = min (count * 8) width := by
    simp [Bytes.slice]
  rw [chunkPrefix, copyFromSlice_getElem? _ _ _ _ isLt, length, slice_getElem?]
  by_cases inside : index < count * 8
  · have range : 0 ≤ index ∧ index < 0 + min (count * 8) width := by omega
    rw [if_pos range, if_pos inside, Nat.sub_zero, if_pos inside, Nat.zero_add]
  · have range : ¬(0 ≤ index ∧ index < 0 + min (count * 8) width) := by omega
    rw [if_neg range, if_neg inside]
    simp [Bytes.zero, isLt]

theorem bytes_ext {left right : Bytes width}
    (equal : ∀ index, index < width → left[index]? = right[index]?) : left = right := by
  apply Vector.ext
  intro index isLt
  have here := equal index isLt
  rw [Vector.getElem?_eq_getElem isLt, Vector.getElem?_eq_getElem isLt] at here
  exact Option.some.inj here

@[simp] theorem chunkPrefix_zero (image : Bytes width) :
    chunkPrefix image 0 = Bytes.zero width := by
  apply bytes_ext
  intro index isLt
  rw [chunkPrefix_getElem? image 0 index isLt, if_neg (by omega)]
  simp [Bytes.zero, isLt]

theorem chunkPrefix_all (fits : layout.Fits width) (image : Bytes width) :
    chunkPrefix image layout.chunkCount = image := by
  apply bytes_ext
  intro index isLt
  have inside : index < layout.chunkCount * 8 := by
    rw [fits.chunkCount_eq]
    omega
  rw [chunkPrefix_getElem? image _ index isLt, if_pos inside]

theorem pageChunk_slice (fits : layout.Fits width) (image : Bytes width) {index : Nat}
    (inPage : index < layout.chunkCount) :
    (layout.pageChunk image index).slice 0 (layout.logicalBytesForChunk index) =
      image.slice (index * 8) (layout.logicalBytesForChunk index) := by
  have range := fits.chunk_end inPage
  apply slice_copyFromSlice_self
  · omega
  · exact length_slice_of_within (by omega)

theorem copyChunk_pageChunk (fits : layout.Fits width) (image : Bytes width) {index : Nat}
    (inPage : index < layout.chunkCount) :
    layout.copyChunk (chunkPrefix image index) index (layout.pageChunk image index) =
      chunkPrefix image (index + 1) := by
  have range := fits.chunk_end inPage
  have length : (image.slice (index * 8) (layout.logicalBytesForChunk index)).length =
      layout.logicalBytesForChunk index :=
    length_slice_of_within (by omega)
  rw [copyChunk, pageChunk_slice fits image inPage]
  apply bytes_ext
  intro position isLt
  rw [copyFromSlice_getElem? _ _ _ _ isLt, length, chunkPrefix_getElem? image _ _ isLt,
    chunkPrefix_getElem? image _ _ isLt, slice_getElem?]
  by_cases earlier : position < index * 8
  · have outside : ¬(index * 8 ≤ position ∧
        position < index * 8 + layout.logicalBytesForChunk index) := by omega
    rw [if_neg outside, if_pos earlier, if_pos (by omega)]
  · by_cases here : position < index * 8 + layout.logicalBytesForChunk index
    · have inside : index * 8 ≤ position ∧
          position < index * 8 + layout.logicalBytesForChunk index := by omega
      have offset : index * 8 + (position - index * 8) = position := by omega
      rw [if_pos inside, if_pos (by omega), if_pos (by omega), offset]
    · have outside : ¬(index * 8 ≤ position ∧
          position < index * 8 + layout.logicalBytesForChunk index) := by omega
      rw [if_neg outside, if_neg earlier, if_neg (by omega)]

theorem pageChunk_padding (fits : layout.Fits width) (image : Bytes width) {index : Nat}
    (inPage : index < layout.chunkCount) :
    anyNonzero ((layout.pageChunk image index).slice (layout.logicalBytesForChunk index)
      (8 - layout.logicalBytesForChunk index)) = false := by
  have range := fits.chunk_end inPage
  have length : (image.slice (index * 8) (layout.logicalBytesForChunk index)).length =
      layout.logicalBytesForChunk index :=
    length_slice_of_within (by omega)
  rw [pageChunk, slice_copyFromSlice_of_disjoint (by omega), slice_zero (by omega)]
  exact anyNonzero_replicate _

end ChunkLemmas

end PageLayout

end Ntsql.Storage
