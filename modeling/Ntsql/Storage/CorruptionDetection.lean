import Ntsql.Storage.ParsedImages

/-! # Corruption of a single byte is detected

What a builder lays out is sealed and what a parser accepts is sealed, so no
parser accepts a built image with one byte replaced. -/

namespace Ntsql.Storage

open Bytes SensitiveFold

section Detection

variable {width : Nat} {ε α : Type}

def Accepts (parser : Bytes width → Except ε α) (bytes : Bytes width) : Prop :=
  ∃ value, parser bytes = .ok value

/-- Whatever byte of the image is replaced by another, the parser rejects it. -/
def DetectsReplacedByte (parser : Bytes width → Except ε α)
    (image : Bytes width) : Prop :=
  ∀ (index : Fin width) (byte : UInt8), byte ≠ image.get index →
    ¬Accepts parser (image.replaceByte index byte)

/-- A parser of sealed arrays detects what is wrong with a sealed image. -/
theorem detectsReplacedByte_of_sealed {parser : Bytes width → Except ε α}
    {image : Bytes width} {offset : Nat} (total : offset + 8 = width)
    (built : Sealed image offset)
    (accepted : ∀ bytes, Accepts parser bytes → Sealed bytes offset) :
    DetectsReplacedByte parser image := by
  intro index byte replaced accepts
  exact built.not_replaceByte total replaced (accepted _ accepts)

end Detection

/-! ## Frames that are built are sealed -/

theorem buildFrame_sealed (format : LogFormat) (kind : FrameKind)
    (payload0 payload1 : U64) (payload2Bytes : Bytes 8) :
    Sealed (buildFrameWithPayload2Bytes format kind payload0 payload1 payload2Bytes) 48 :=
  frameBytes_checksum ..

theorem buildPageStoreFrame_sealed (kind : PageStoreFrameKind) (payloadA payloadB : U64)
    (payloadCBytes : Bytes 8) :
    Sealed (buildPageStoreFrameWithPayload2Bytes kind payloadA payloadB payloadCBytes)
      48 :=
  frameBytes_checksum ..

/-! ## What is accepted is sealed -/

theorem sealed_of_parseFrame {offset : Nat} {format : LogFormat} {frame : Bytes 56}
    (accepts : Accepts (parseFrame · offset format) frame) : Sealed frame 48 := by
  rcases accepts with ⟨_, parsed⟩
  exact (parseFrameBytes_image (Except.mapError_ok_iff.mp parsed)).2.2.1

theorem sealed_of_parsePageStoreFrame {offset : Nat} {frame : Bytes 56}
    (accepts : Accepts (parsePageStoreFrame · offset) frame) : Sealed frame 48 := by
  rcases accepts with ⟨_, parsed⟩
  exact (parseFrameBytes_image parsed).2.2.1

theorem sealed_of_parseHeader {expectation : HeaderExpectation} {header : Bytes 64}
    (accepts : Accepts (parseHeader · expectation) header) : Sealed header 56 := by
  rcases accepts with ⟨_, parsed⟩
  exact (parseHeader_image parsed).1

theorem sealed_of_parseHeaderV4 {layout : PageLayout} {header : Bytes 128}
    (accepts : Accepts (parseHeaderV4 · layout) header) : Sealed header 120 := by
  rcases accepts with ⟨_, parsed⟩
  exact (parseHeaderV4_image parsed).1

theorem sealed_of_parseHeaderV5 {layout : PageLayout} {header : Bytes 192}
    (accepts : Accepts (parseHeaderV5 · layout) header) : Sealed header 184 := by
  rcases accepts with ⟨_, parsed⟩
  exact (parseHeaderV5_image parsed).1

theorem sealed_of_parsePageStoreHeader {layout : PageLayout} {header : Bytes 64}
    (accepts : Accepts (parsePageStoreHeader · layout) header) : Sealed header 56 := by
  rcases accepts with ⟨_, parsed⟩
  exact (parsePageStoreHeader_image parsed).1

theorem sealed_of_parsePageStoreHeaderV2 {layout : PageLayout} {header : Bytes 128}
    (accepts : Accepts (parsePageStoreHeaderV2 · layout) header) : Sealed header 120 := by
  rcases accepts with ⟨_, parsed⟩
  exact (parsePageStoreHeaderV2_image parsed).1

/-! ## Detection -/

/-- No parser of the log accepts an image of a log builder with a byte replaced. -/
structure LogDetects : Prop where
  frame : ∀ format kind payload0 payload1 payload2Bytes offset reader,
    DetectsReplacedByte (parseFrame · offset reader)
      (buildFrameWithPayload2Bytes format kind payload0 payload1 payload2Bytes)
  header : ∀ format persistentId pageWidth expectation,
    DetectsReplacedByte (parseHeader · expectation)
      (buildHeader format persistentId pageWidth)
  headerV4 : ∀ metadata pageWidth layout,
    DetectsReplacedByte (parseHeaderV4 · layout) (buildHeaderV4 metadata pageWidth)
  headerV5Initial : ∀ persistentId pageWidth identity layout,
    DetectsReplacedByte (parseHeaderV5 · layout)
      (buildHeaderV5Initial persistentId pageWidth identity)
  headerV5Reclaimed : ∀ metadata pageWidth identity layout,
    DetectsReplacedByte (parseHeaderV5 · layout)
      (buildHeaderV5Reclaimed metadata pageWidth identity)

structure PageStoreDetects : Prop where
  frame : ∀ kind payloadA payloadB payloadCBytes offset,
    DetectsReplacedByte (parsePageStoreFrame · offset)
      (buildPageStoreFrameWithPayload2Bytes kind payloadA payloadB payloadCBytes)
  header : ∀ persistentId pageWidth layout,
    DetectsReplacedByte (parsePageStoreHeader · layout)
      (buildPageStoreHeader persistentId pageWidth)
  headerV2 : ∀ persistentId pageWidth identity layout,
    DetectsReplacedByte (parsePageStoreHeaderV2 · layout)
      (buildPageStoreHeaderV2 persistentId pageWidth identity)

/-- What a parser of the log accepts is what the builder lays out of the result. -/
structure LogParsesImages : Prop where
  frame : ∀ frame offset format decoded, parseFrame frame offset format = .ok decoded →
    frame = buildFrame format decoded.kind decoded.payload0 decoded.payload1
      decoded.payload2
  header : ∀ header expectation persistentId,
    parseHeader header expectation = .ok persistentId →
    ∃ format, expectation.accepts format = true ∧
      header = buildHeader format persistentId expectation.pageWidth
  headerV4 : ∀ header layout metadata, parseHeaderV4 header layout = .ok metadata →
    header = buildHeaderV4 metadata layout.width
  headerV5 : ∀ header layout metadata, parseHeaderV5 header layout = .ok metadata →
    header = buildHeaderV5Initial metadata.persistentId layout.width
        metadata.databaseFileIdentity ∨
      ∃ reclaimed, header = buildHeaderV5Reclaimed reclaimed layout.width
        metadata.databaseFileIdentity

structure PageStoreParsesImages : Prop where
  frame : ∀ frame offset decoded, parsePageStoreFrame frame offset = .ok decoded →
    frame = buildPageStoreFrame decoded.kind decoded.payload0 decoded.payload1
      decoded.payload2
  header : ∀ header layout persistentId,
    parsePageStoreHeader header layout = .ok persistentId →
    header = buildPageStoreHeader persistentId layout.width
  headerV2 : ∀ header layout decoded, parsePageStoreHeaderV2 header layout = .ok decoded →
    header = buildPageStoreHeaderV2 decoded.1 layout.width decoded.2

theorem log_detects : LogDetects where
  frame format kind payload0 payload1 payload2Bytes _ _ :=
    detectsReplacedByte_of_sealed rfl
      (buildFrame_sealed format kind payload0 payload1 payload2Bytes)
      fun _ => sealed_of_parseFrame
  header format persistentId pageWidth _ :=
    detectsReplacedByte_of_sealed rfl (buildHeader_sealed format persistentId pageWidth)
      fun _ => sealed_of_parseHeader
  headerV4 metadata pageWidth _ :=
    detectsReplacedByte_of_sealed rfl (buildHeaderV4_sealed metadata pageWidth)
      fun _ => sealed_of_parseHeaderV4
  headerV5Initial persistentId pageWidth identity _ :=
    detectsReplacedByte_of_sealed rfl
      (buildHeaderV5Initial_sealed persistentId pageWidth identity)
      fun _ => sealed_of_parseHeaderV5
  headerV5Reclaimed metadata pageWidth identity _ :=
    detectsReplacedByte_of_sealed rfl
      (buildHeaderV5Reclaimed_sealed metadata pageWidth identity)
      fun _ => sealed_of_parseHeaderV5

theorem pageStore_detects : PageStoreDetects where
  frame kind payloadA payloadB payloadCBytes _ :=
    detectsReplacedByte_of_sealed rfl
      (buildPageStoreFrame_sealed kind payloadA payloadB payloadCBytes)
      fun _ => sealed_of_parsePageStoreFrame
  header persistentId pageWidth _ :=
    detectsReplacedByte_of_sealed rfl (buildPageStoreHeader_sealed persistentId pageWidth)
      fun _ => sealed_of_parsePageStoreHeader
  headerV2 persistentId pageWidth identity _ :=
    detectsReplacedByte_of_sealed rfl
      (buildPageStoreHeaderV2_sealed persistentId pageWidth identity)
      fun _ => sealed_of_parsePageStoreHeaderV2

/-- The checksum tells apart any two strings that differ in one byte, so every
parser rejects a built image with one byte replaced; and parsers accept only
what their builder lays out. -/
theorem single_byte_corruption_is_detected :
    (∀ index left right, DifferAt index left right → checksumV1 left ≠ checksumV1 right) ∧
      LogDetects ∧ PageStoreDetects ∧ LogParsesImages ∧ PageStoreParsesImages := by
  refine ⟨fun _ _ _ => checksumV1_ne, log_detects, pageStore_detects, ?_, ?_⟩
  · exact {
      frame := fun _ _ _ _ => parseFrame_image
      header := fun _ _ _ parsed => (parseHeader_image parsed).2
      headerV4 := fun _ _ _ parsed => (parseHeaderV4_image parsed).2
      headerV5 := fun _ _ _ parsed => (parseHeaderV5_image parsed).2 }
  · exact {
      frame := fun _ _ _ => parsePageStoreFrame_image
      header := fun _ _ _ parsed => (parsePageStoreHeader_image parsed).2
      headerV2 := fun _ _ _ parsed => (parsePageStoreHeaderV2_image parsed).2 }

end Ntsql.Storage
