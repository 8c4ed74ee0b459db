import Ntsql.Foundation.FrameLog

/-! # Appending to a file that may fail

A writer appends frames with one write each. What the device does is scripted:
a write that fails leaves any part of its frame behind, and the writer must
not be used again. -/

namespace Ntsql

/-- What a device does with one request. -/
inductive IoResult where
  | done
  | failed (written : Nat)
deriving DecidableEq

/-- A file open for appending, with the results its next requests will have. A
request beyond the script succeeds. -/
structure AppendFile where
  bytes : List UInt8
  script : List IoResult
  poisoned : Bool
deriving DecidableEq

namespace AppendFile

variable {width : Nat} {Stage : Type}

/-- `write_all` for one frame after another, each at its stage, until one fails
and poisons the writer. -/
def writeFrames : List (Stage × Bytes width) → AppendFile → Except Stage Unit × AppendFile
  | [], file => (.ok (), file)
  | (stage, frame) :: frames, file =>
      match file.script with
      | [] => writeFrames frames { file with bytes := file.bytes ++ frame.toList }
      | .done :: script =>
          writeFrames frames { file with bytes := file.bytes ++ frame.toList, script }
      | .failed written :: script =>
          (.error stage, {
            bytes := file.bytes ++ frame.toList.take written, script, poisoned := true })

/-- `sync_all`; a failure poisons the writer if `poisonOnError`. -/
def syncAll (stage : Stage) (poisonOnError : Bool) (file : AppendFile) :
    Except Stage Unit × AppendFile :=
  match file.script with
  | [] => (.ok (), file)
  | .done :: script => (.ok (), { file with script })
  | .failed _ :: script =>
      (.error stage, { file with script, poisoned := file.poisoned || poisonOnError })

/-- Every request succeeds. -/
def Reliable (file : AppendFile) : Prop := file.script = []

/-- Either every frame is appended, or the device failed: the writer is poisoned
and some first part of the frames is there. -/
theorem writeFrames_cases (frames : List (Stage × Bytes width)) (file : AppendFile) :
    (∃ script, writeFrames frames file = (.ok (), { file with
        bytes := file.bytes ++ FrameLog.encode (frames.map Prod.snd), script }) ∧
          (file.Reliable → script = [])) ∨
      ∃ stage written script, writeFrames frames file = (.error stage, {
        bytes := file.bytes ++ (FrameLog.encode (frames.map Prod.snd)).take written,
        script, poisoned := true }) ∧ ¬file.Reliable := by
  induction frames generalizing file with
  | nil => exact .inl ⟨file.script, by simp [writeFrames], id⟩
  | cons frame frames induction =>
      rcases frame with ⟨stage, frame⟩
      have proceeds (script : List IoResult) :
          (∃ after, writeFrames frames
            { file with bytes := file.bytes ++ frame.toList, script } =
              (.ok (), { file with
                bytes := file.bytes ++ FrameLog.encode (frame :: frames.map Prod.snd),
                script := after }) ∧ (script = [] → after = [])) ∨
            ∃ stage written after,
              writeFrames frames
                { file with bytes := file.bytes ++ frame.toList, script } =
                (.error stage, {
                  bytes := file.bytes ++
                    (FrameLog.encode (frame :: frames.map Prod.snd)).take written,
                  script := after, poisoned := true }) ∧ script ≠ [] := by
        rcases induction { file with bytes := file.bytes ++ frame.toList, script } with
          ⟨after, written, reliable⟩ | ⟨failed, count, after, written, unreliable⟩
        · left
          refine ⟨after, ?_, reliable⟩
          rw [written, FrameLog.encode_cons, List.append_assoc]
        · right
          refine ⟨failed, frame.toList.length + count, after, ?_, unreliable⟩
          rw [written, FrameLog.encode_cons, List.take_length_add_append,
            List.append_assoc]
      cases script : file.script with
      | nil => simpa [writeFrames, script, Reliable] using proceeds []
      | cons result rest =>
          cases result with
          | done =>
              rcases proceeds rest with
                ⟨after, written, _⟩ | ⟨failed, count, after, written, _⟩
              · exact .inl ⟨after, by simpa [writeFrames, script] using written,
                  by simp [Reliable, script]⟩
              · exact .inr ⟨failed, count, after,
                  by simpa [writeFrames, script] using written,
                  by simp [Reliable, script]⟩
          | failed written =>
              right
              refine ⟨stage, min written frame.toList.length, rest, ?_,
                by simp [Reliable, script]⟩
              rw [List.map_cons, FrameLog.encode_cons,
                List.take_append_of_le_length (Nat.min_le_right _ _)]
              simp [writeFrames, script, List.take_eq_take_min]

theorem syncAll_cases (stage : Stage) (poisonOnError : Bool) (file : AppendFile) :
    (∃ script, syncAll stage poisonOnError file = (.ok (), { file with script }) ∧
        (file.Reliable → script = [])) ∨
      ∃ script, syncAll stage poisonOnError file =
        (.error stage, { file with script, poisoned := file.poisoned || poisonOnError }) ∧
          ¬file.Reliable := by
  rcases file with ⟨bytes, script, poisoned⟩
  cases script with
  | nil => exact .inl ⟨[], rfl, fun _ => rfl⟩
  | cons result rest =>
      cases result with
      | done => exact .inl ⟨rest, rfl, nofun⟩
      | failed written => exact .inr ⟨rest, rfl, nofun⟩

end AppendFile

end Ntsql
