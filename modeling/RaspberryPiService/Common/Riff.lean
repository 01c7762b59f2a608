import Mathlib.Tactic.Ring

/-!
# RIFF files

A RIFF file is a sequence of chunks, each of them an identifier, the size of its body as a
little-endian number, the body, and a byte of padding if the size is odd. A WAVE file is
one chunk `RIFF` over the whole file, whose body is the form `WAVE` and a sequence of
chunks, with the format of the samples in `fmt ` and the samples in `data`.

This file defines a reader that follows the sizes, and a writer that the reader inverts.
-/

namespace Riff

/-- The little-endian bytes of a number; what does not fit is cut off. -/
def littleEndian : Nat → Nat → List UInt8
  | 0, _ => []
  | width + 1, number => UInt8.ofNat number :: littleEndian width (number / 256)

def ofLittleEndian : List UInt8 → Nat
  | [] => 0
  | byte :: bytes => byte.toNat + 256 * ofLittleEndian bytes

structure FourCC where
  first : UInt8
  second : UInt8
  third : UInt8
  fourth : UInt8
deriving DecidableEq

def FourCC.ofChars (first second third fourth : Char) : FourCC :=
  ⟨first.toUInt8, second.toUInt8, third.toUInt8, fourth.toUInt8⟩

def FourCC.bytes (id : FourCC) : List UInt8 :=
  [id.first, id.second, id.third, id.fourth]

structure Chunk where
  id : FourCC
  body : List UInt8
deriving DecidableEq

namespace Chunk

def padding (size : Nat) : List UInt8 :=
  List.replicate (size % 2) 0

def encode (chunk : Chunk) : List UInt8 :=
  chunk.id.bytes ++ littleEndian 4 chunk.body.length ++ chunk.body ++ padding chunk.body.length

/-- The first chunk, and what comes after it. -/
def read : List UInt8 → Option (Chunk × List UInt8)
  | first :: second :: third :: fourth :: size₀ :: size₁ :: size₂ :: size₃ :: rest =>
      let size := ofLittleEndian [size₀, size₁, size₂, size₃]
      if size + size % 2 ≤ rest.length then
        some (⟨⟨first, second, third, fourth⟩, rest.take size⟩, rest.drop (size + size % 2))
      else none
  | _ => none

/-- The chunks up to the end, at most as many as there is fuel for. -/
def readAll : Nat → List UInt8 → Option (List Chunk)
  | _, [] => some []
  | 0, _ :: _ => none
  | fuel + 1, byte :: bytes => do
      let (chunk, rest) ← read (byte :: bytes)
      let chunks ← readAll fuel rest
      return chunk :: chunks

end Chunk

structure WaveFormat where
  audioFormat : Nat
  numChannels : Nat
  sampleRate : Nat
  byteRate : Nat
  blockAlign : Nat
  bitsPerSample : Nat
deriving DecidableEq

namespace WaveFormat

/-- The fields can be written. -/
structure Fits (format : WaveFormat) : Prop where
  audioFormat : format.audioFormat < UInt16.size
  numChannels : format.numChannels < UInt16.size
  sampleRate : format.sampleRate < UInt32.size
  byteRate : format.byteRate < UInt32.size
  blockAlign : format.blockAlign < UInt16.size
  bitsPerSample : format.bitsPerSample < UInt16.size

def encode (format : WaveFormat) : List UInt8 :=
  littleEndian 2 format.audioFormat ++ littleEndian 2 format.numChannels ++
    littleEndian 4 format.sampleRate ++ littleEndian 4 format.byteRate ++
    littleEndian 2 format.blockAlign ++ littleEndian 2 format.bitsPerSample

/-- The format at the beginning of a body, which may go on with an extension. -/
def read : List UInt8 → Option WaveFormat
  | format₀ :: format₁ :: channels₀ :: channels₁ :: rate₀ :: rate₁ :: rate₂ :: rate₃ ::
      bytes₀ :: bytes₁ :: bytes₂ :: bytes₃ :: align₀ :: align₁ :: bits₀ :: bits₁ :: _ =>
      some {
        audioFormat := ofLittleEndian [format₀, format₁]
        numChannels := ofLittleEndian [channels₀, channels₁]
        sampleRate := ofLittleEndian [rate₀, rate₁, rate₂, rate₃]
        byteRate := ofLittleEndian [bytes₀, bytes₁, bytes₂, bytes₃]
        blockAlign := ofLittleEndian [align₀, align₁]
        bitsPerSample := ofLittleEndian [bits₀, bits₁] }
  | _ => none

end WaveFormat

/-- The bytes of a 16-bit sample. -/
def sampleBytes (sample : Int16) : List UInt8 :=
  littleEndian 2 sample.toUInt16.toNat

def readSamples : List UInt8 → Option (List Int16)
  | [] => some []
  | [_] => none
  | low :: high :: rest =>
      (readSamples rest).map fun samples =>
        (UInt16.ofNat (ofLittleEndian [low, high])).toInt16 :: samples

structure Wave where
  format : WaveFormat
  samples : List Int16
deriving DecidableEq

namespace Wave

/-- The chunks of a file with samples of 16 bits. -/
def chunks (wave : Wave) : List Chunk :=
  [⟨.ofChars 'f' 'm' 't' ' ', wave.format.encode⟩,
    ⟨.ofChars 'd' 'a' 't' 'a', wave.samples.flatMap sampleBytes⟩]

/-- The chunk over the whole file. -/
def riff (wave : Wave) : Chunk where
  id := .ofChars 'R' 'I' 'F' 'F'
  body := (FourCC.ofChars 'W' 'A' 'V' 'E').bytes ++ wave.chunks.flatMap Chunk.encode

def encode (wave : Wave) : List UInt8 :=
  wave.riff.encode

/-- The body of a `RIFF` chunk, with samples in linear PCM of 16 bits. -/
def readBody : List UInt8 → Option Wave
  | first :: second :: third :: fourth :: rest =>
      if FourCC.mk first second third fourth = .ofChars 'W' 'A' 'V' 'E' then do
        let chunks ← Chunk.readAll rest.length rest
        let formatChunk ← chunks.find? fun chunk => chunk.id = .ofChars 'f' 'm' 't' ' '
        let dataChunk ← chunks.find? fun chunk => chunk.id = .ofChars 'd' 'a' 't' 'a'
        let format ← WaveFormat.read formatChunk.body
        if format.audioFormat = 1 ∧ format.bitsPerSample = 16 then do
          let samples ← readSamples dataChunk.body
          return { format, samples }
        else none
      else none
  | _ => none

/-- A file is one `RIFF` chunk and nothing else. -/
def read (bytes : List UInt8) : Option Wave :=
  match Chunk.read bytes with
  | some (chunk, []) =>
      if chunk.id = .ofChars 'R' 'I' 'F' 'F' then readBody chunk.body else none
  | _ => none

end Wave

section Numbers

@[simp] theorem length_littleEndian (width number : Nat) :
    (littleEndian width number).length = width := by
  induction width generalizing number with
  | zero => rfl
  | succ width ih => rw [littleEndian, List.length_cons, ih]

theorem ofLittleEndian_littleEndian (width : Nat) {number : Nat} (fits : number < 256 ^ width) :
    ofLittleEndian (littleEndian width number) = number := by
  induction width generalizing number with
  | zero =>
      rw [pow_zero] at fits
      rw [littleEndian, ofLittleEndian]
      omega
  | succ width ih =>
      have higher : number / 256 < 256 ^ width := by
        rw [Nat.div_lt_iff_lt_mul (by decide), ← pow_succ]
        exact fits
      rw [littleEndian, ofLittleEndian, ih higher, UInt8.toNat_ofNat']
      omega

/-- The number of four bytes at an offset. -/
def numberAt (bytes : List UInt8) (offset : Nat) : Nat :=
  ofLittleEndian ((bytes.drop offset).take 4)

theorem numberAt_append {number offset : Nat} (fits : number < 256 ^ 4) {front : List UInt8}
    (length : front.length = offset) (rest : List UInt8) :
    numberAt (front ++ (littleEndian 4 number ++ rest)) offset = number := by
  rw [numberAt, List.drop_left' length, List.take_left' (length_littleEndian 4 number)]
  exact ofLittleEndian_littleEndian 4 fits

end Numbers

section Samples

theorem readSamples_sampleBytes (sample : Int16) (rest : List UInt8) :
    readSamples (sampleBytes sample ++ rest) = (readSamples rest).map (sample :: ·) := by
  have fits : sample.toUInt16.toNat < 256 ^ 2 := sample.toUInt16.toNat_lt
  have value := ofLittleEndian_littleEndian 2 fits
  simp only [littleEndian] at value
  simp only [sampleBytes, littleEndian, List.cons_append, List.nil_append, readSamples, value,
    UInt16.ofNat_toNat, Int16.toInt16_toUInt16]

@[simp] theorem readSamples_flatMap (samples : List Int16) :
    readSamples (samples.flatMap sampleBytes) = some samples := by
  induction samples with
  | nil => rfl
  | cons sample samples ih =>
      rw [List.flatMap_cons, readSamples_sampleBytes, ih]
      rfl

theorem length_flatMap_sampleBytes (samples : List Int16) :
    (samples.flatMap sampleBytes).length = 2 * samples.length := by
  induction samples with
  | nil => rfl
  | cons sample samples ih =>
      rw [List.flatMap_cons, List.length_append, ih, sampleBytes, length_littleEndian,
        List.length_cons]
      omega

end Samples

section Chunks

/-- The first chunk of a sequence is read, whatever follows it. -/
theorem Chunk.read_encode {chunk : Chunk} (small : chunk.body.length < UInt32.size)
    (rest : List UInt8) : Chunk.read (chunk.encode ++ rest) = some (chunk, rest) := by
  have size : ofLittleEndian (littleEndian 4 chunk.body.length) = chunk.body.length :=
    ofLittleEndian_littleEndian 4 small
  simp only [littleEndian] at size
  have padded : (padding chunk.body.length).length = chunk.body.length % 2 :=
    List.length_replicate
  simp only [encode, FourCC.bytes, littleEndian, List.cons_append, List.nil_append,
    List.append_assoc, read, size]
  rw [if_pos, List.take_left, ← List.append_assoc, List.drop_left']
  · rw [List.length_append, padded]
  · rw [List.length_append, List.length_append, padded]
    omega

theorem Chunk.readAll_encode {chunks : List Chunk}
    (small : ∀ chunk ∈ chunks, chunk.body.length < UInt32.size) {fuel : Nat}
    (enough : chunks.length ≤ fuel) :
    Chunk.readAll fuel (chunks.flatMap Chunk.encode) = some chunks := by
  induction chunks generalizing fuel with
  | nil => simp [Chunk.readAll]
  | cons chunk chunks ih =>
      rcases fuel with - | fuel
      · simp at enough
      have first := Chunk.read_encode (small chunk List.mem_cons_self)
        (chunks.flatMap Chunk.encode)
      have others := ih (fun other present => small other (List.mem_cons_of_mem _ present))
        (Nat.le_of_succ_le_succ enough)
      rw [List.flatMap_cons]
      generalize bytes : chunk.encode ++ chunks.flatMap Chunk.encode = all at first ⊢
      rcases all with - | ⟨byte, all⟩
      · cases first
      · simp [readAll, first, others]

end Chunks

section Waves

theorem WaveFormat.read_encode {format : WaveFormat} (fits : format.Fits) :
    WaveFormat.read format.encode = some format := by
  have audioFormat := ofLittleEndian_littleEndian 2 fits.audioFormat
  have numChannels := ofLittleEndian_littleEndian 2 fits.numChannels
  have sampleRate := ofLittleEndian_littleEndian 4 fits.sampleRate
  have byteRate := ofLittleEndian_littleEndian 4 fits.byteRate
  have blockAlign := ofLittleEndian_littleEndian 2 fits.blockAlign
  have bitsPerSample := ofLittleEndian_littleEndian 2 fits.bitsPerSample
  simp only [littleEndian] at audioFormat numChannels sampleRate byteRate blockAlign bitsPerSample
  simp only [encode, littleEndian, List.cons_append, List.nil_append, read, audioFormat,
    numChannels, sampleRate, byteRate, blockAlign, bitsPerSample]

theorem WaveFormat.length_encode (format : WaveFormat) : format.encode.length = 16 := by
  simp [encode]

theorem Chunk.length_encode (chunk : Chunk) :
    chunk.encode.length = 8 + chunk.body.length + chunk.body.length % 2 := by
  simp only [encode, FourCC.bytes, padding, List.length_append, List.length_cons,
    List.length_nil, List.length_replicate, length_littleEndian]

/-- The samples of a file are an even number of bytes, and need no padding. -/
theorem Wave.length_chunks (wave : Wave) :
    (wave.chunks.flatMap Chunk.encode).length = 32 + 2 * wave.samples.length := by
  simp only [chunks, List.flatMap_cons, List.flatMap_nil, List.append_nil, List.length_append,
    Chunk.length_encode, WaveFormat.length_encode, length_flatMap_sampleBytes]
  omega

theorem Wave.length_riff (wave : Wave) :
    wave.riff.body.length = 36 + 2 * wave.samples.length := by
  rw [riff, List.length_append, length_chunks]
  simp only [FourCC.bytes, List.length_cons, List.length_nil]
  omega

theorem Wave.length_encode (wave : Wave) :
    wave.encode.length = 44 + 2 * wave.samples.length := by
  rw [encode, Chunk.length_encode, length_riff]
  omega

theorem Wave.readBody_riff {wave : Wave} (fits : wave.format.Fits)
    (isPcm : wave.format.audioFormat = 1) (bits : wave.format.bitsPerSample = 16)
    (small : 2 * wave.samples.length < UInt32.size) : readBody wave.riff.body = some wave := by
  have chunksSmall : ∀ chunk ∈ wave.chunks, chunk.body.length < UInt32.size := by
    intro chunk present
    simp only [chunks, List.mem_cons, List.not_mem_nil, or_false] at present
    rcases present with rfl | rfl
    · rw [WaveFormat.length_encode]
      decide
    · rw [length_flatMap_sampleBytes]
      exact small
  have enough : wave.chunks.length ≤ (wave.chunks.flatMap Chunk.encode).length := by
    rw [length_chunks]
    simp only [chunks, List.length_cons, List.length_nil]
    omega
  have all := Chunk.readAll_encode chunksSmall enough
  have formatChunk : wave.chunks.find? (fun chunk => chunk.id = .ofChars 'f' 'm' 't' ' ') =
      some ⟨.ofChars 'f' 'm' 't' ' ', wave.format.encode⟩ := rfl
  have dataChunk : wave.chunks.find? (fun chunk => chunk.id = .ofChars 'd' 'a' 't' 'a') =
      some ⟨.ofChars 'd' 'a' 't' 'a', wave.samples.flatMap sampleBytes⟩ := rfl
  simp only [riff, FourCC.bytes, List.cons_append, List.nil_append, readBody, if_true, all,
    Option.bind_eq_bind, Option.bind_some, formatChunk, dataChunk, WaveFormat.read_encode fits,
    isPcm, bits, readSamples_flatMap, and_self]
  rfl

/-- What is written is read, as long as the sizes fit their fields. -/
theorem Wave.read_encode {wave : Wave} (fits : wave.format.Fits)
    (isPcm : wave.format.audioFormat = 1) (bits : wave.format.bitsPerSample = 16)
    (small : 36 + 2 * wave.samples.length < UInt32.size) : Wave.read wave.encode = some wave := by
  have riff : Chunk.read wave.encode = some (wave.riff, []) := by
    rw [encode, ← List.append_nil wave.riff.encode]
    apply Chunk.read_encode
    rw [length_riff]
    exact small
  simp only [read, riff]
  apply readBody_riff fits isPcm bits
  omega

end Waves

end Riff
