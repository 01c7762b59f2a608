import RaspberryPiService.Common.Riff
import RaspberryPiService.RecordManager.RecordWorker

/-!
# The bytes of a saved recording

`saveWavFile` writes the header of a WAVE file field by field, and the samples of the
buffer after it. Numbers are written as they lie in memory, which is little-endian, and
all sizes are computed in 32 bits.
-/

namespace RaspberryPiService

open Riff

/-- `out.write` of the characters of a literal. -/
def writeText (text : List Char) : List UInt8 :=
  text.map Char.toUInt8

def writeUInt16 (number : UInt16) : List UInt8 :=
  littleEndian 2 number.toNat

def writeUInt32 (number : UInt32) : List UInt8 :=
  littleEndian 4 number.toNat

/-- `Config::getSampleRate`. -/
def getSampleRate : UInt32 := 16000

/-- What `saveWavFile` writes, if all writes succeed. -/
def WavFile.bytes (file : WavFile) : List UInt8 :=
  let subchunk2Size : UInt32 := .ofNat (file.samples.length * 2)
  let chunkSize : UInt32 := 36 + subchunk2Size
  let byteRate : UInt32 := getSampleRate * 1 * 2
  let blockAlign : UInt16 := 1 * 2
  let subchunk1Size : UInt32 := 16
  let audioFormat : UInt16 := 1
  let numChannels : UInt16 := 1
  let bitsPerSample : UInt16 := 16
  writeText ['R', 'I', 'F', 'F'] ++ writeUInt32 chunkSize ++ writeText ['W', 'A', 'V', 'E'] ++
    writeText ['f', 'm', 't', ' '] ++ writeUInt32 subchunk1Size ++ writeUInt16 audioFormat ++
    writeUInt16 numChannels ++ writeUInt32 getSampleRate ++ writeUInt32 byteRate ++
    writeUInt16 blockAlign ++ writeUInt16 bitsPerSample ++
    writeText ['d', 'a', 't', 'a'] ++ writeUInt32 subchunk2Size ++
    (file.samples.flatMap sampleBytes).take subchunk2Size.toNat

namespace WavFile

/-- What the header says of the samples. -/
def format : WaveFormat where
  audioFormat := 1
  numChannels := 1
  sampleRate := 16000
  byteRate := 32000
  blockAlign := 2
  bitsPerSample := 16

theorem format_fits : format.Fits := by
  constructor <;> decide

theorem format_byteRate : format.byteRate = format.sampleRate * format.blockAlign := by
  decide

variable {file : WavFile}

section Sizes

theorem toNat_subchunk2Size {count : Nat} (small : 36 + 2 * count < UInt32.size) :
    (UInt32.ofNat (count * 2)).toNat = 2 * count := by
  rw [UInt32.toNat_ofNat_of_lt' (by omega), Nat.mul_comm]

theorem toNat_chunkSize {count : Nat} (small : 36 + 2 * count < UInt32.size) :
    (36 + UInt32.ofNat (count * 2)).toNat = 36 + 2 * count := by
  rw [UInt32.toNat_add, toNat_subchunk2Size small]
  exact Nat.mod_eq_of_lt small

theorem padding_even (count : Nat) : Chunk.padding (2 * count) = [] := by
  rw [Chunk.padding, Nat.mul_mod_right, List.replicate_zero]

end Sizes

/-- The fields that are written one by one are the chunks of a WAVE file. -/
theorem bytes_eq_encode (small : 36 + 2 * file.samples.length < UInt32.size) :
    file.bytes = Wave.encode ⟨format, file.samples⟩ := by
  have samples := length_flatMap_sampleBytes file.samples
  have all : (file.samples.flatMap sampleBytes).take (2 * file.samples.length) =
      file.samples.flatMap sampleBytes :=
    List.take_of_length_le samples.le
  have riffPadding : Chunk.padding (36 + 2 * file.samples.length) = [] := by
    rw [show 36 + 2 * file.samples.length = 2 * (18 + file.samples.length) by omega]
    exact padding_even _
  have formatChunk : Chunk.encode ⟨.ofChars 'f' 'm' 't' ' ', format.encode⟩ =
      writeText ['f', 'm', 't', ' '] ++ writeUInt32 16 ++ writeUInt16 1 ++ writeUInt16 1 ++
        writeUInt32 getSampleRate ++ writeUInt32 (getSampleRate * 1 * 2) ++
        writeUInt16 (1 * 2) ++ writeUInt16 16 := by
    decide
  have dataChunk : Chunk.encode ⟨.ofChars 'd' 'a' 't' 'a', file.samples.flatMap sampleBytes⟩ =
      writeText ['d', 'a', 't', 'a'] ++ littleEndian 4 (2 * file.samples.length) ++
        file.samples.flatMap sampleBytes := by
    rw [Chunk.encode, samples, padding_even, List.append_nil]
    rfl
  rw [Wave.encode, Chunk.encode, Wave.length_riff, riffPadding]
  simp only [Wave.riff, Wave.chunks, List.flatMap_cons, List.flatMap_nil, formatChunk, dataChunk]
  simp only [bytes, writeUInt32, toNat_chunkSize small, toNat_subchunk2Size small, all,
    List.append_assoc, List.append_nil]
  rfl

theorem read_bytes (small : 36 + 2 * file.samples.length < UInt32.size) :
    Wave.read file.bytes = some ⟨format, file.samples⟩ := by
  rw [bytes_eq_encode small]
  exact Wave.read_encode format_fits rfl rfl small

theorem length_bytes (small : 36 + 2 * file.samples.length < UInt32.size) :
    file.bytes.length = 44 + 2 * file.samples.length := by
  rw [bytes_eq_encode small, Wave.length_encode]

theorem riffSize_bytes (small : 36 + 2 * file.samples.length < UInt32.size) :
    numberAt file.bytes 4 = 36 + 2 * file.samples.length := by
  rw [bytes_eq_encode small, Wave.encode, Chunk.encode, Wave.length_riff, List.append_assoc,
    List.append_assoc]
  exact numberAt_append small rfl _

theorem dataSize_bytes (small : 36 + 2 * file.samples.length < UInt32.size) :
    numberAt file.bytes 40 = 2 * file.samples.length := by
  have fits : 2 * file.samples.length < UInt32.size := by omega
  have size : writeUInt32 (.ofNat (file.samples.length * 2)) =
      littleEndian 4 (2 * file.samples.length) := by
    rw [writeUInt32, toNat_subchunk2Size small]
  rw [bytes, List.append_assoc, size]
  exact numberAt_append fits rfl _

end WavFile

/--
A reader recovers the buffer from the file, and the two sizes are those of the bytes that
follow them.
-/
theorem AlsaHelper.saveWavFile_decodes {alsaHelper : AlsaHelper}
    (captured : alsaHelper.audioBuffer ≠ [])
    (small : 36 + 2 * alsaHelper.audioBuffer.length < UInt32.size) (stamp : String) :
    ∃ file wave, (alsaHelper.saveWavFile stamp true).1 = some file ∧
      Wave.read file.bytes = some wave ∧
      wave.format.audioFormat = 1 ∧ wave.format.numChannels = 1 ∧
      wave.format.bitsPerSample = 16 ∧
      wave.format.byteRate = wave.format.sampleRate * wave.format.blockAlign ∧
      wave.samples = alsaHelper.audioBuffer ∧
      numberAt file.bytes 4 = file.bytes.length - 8 ∧
      numberAt file.bytes 40 = (file.bytes.drop 44).length := by
  have saved : (alsaHelper.saveWavFile stamp true).1 = some
      ⟨wavOutputDir ++ "/record_" ++ stamp ++ ".wav", alsaHelper.audioBuffer⟩ := by
    rw [saveWavFile, if_neg captured]
    rfl
  refine ⟨_, _, saved, WavFile.read_bytes small, rfl, rfl, rfl, WavFile.format_byteRate, rfl,
    ?_, ?_⟩
  · rw [WavFile.riffSize_bytes small, WavFile.length_bytes small]
    omega
  · rw [WavFile.dataSize_bytes small, List.length_drop, WavFile.length_bytes small]
    omega

theorem AlsaHelper.saveWavFile_decodes_three :
    ∃ file wave, (AlsaHelper.saveWavFile { audioBuffer := [0, -1, 258] } "20240101_120000" true).1 =
        some file ∧
      Wave.read file.bytes = some wave ∧
      wave.format.audioFormat = 1 ∧ wave.format.numChannels = 1 ∧
      wave.format.bitsPerSample = 16 ∧
      wave.format.byteRate = wave.format.sampleRate * wave.format.blockAlign ∧
      wave.samples = [0, -1, 258] ∧
      numberAt file.bytes 4 = file.bytes.length - 8 ∧
      numberAt file.bytes 40 = (file.bytes.drop 44).length :=
  AlsaHelper.saveWavFile_decodes (by decide) (by decide) "20240101_120000"

end RaspberryPiService
