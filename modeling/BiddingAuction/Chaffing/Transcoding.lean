import BiddingAuction.Common.Status
import BiddingAuction.Foundation.ByteCursor
import BiddingAuction.Proto.AdScore
import Mathlib.Algebra.Group.Int.Defs

/-!
# Framing of `GetBids` payloads

A payload is one byte for the version and the compression type, four for the length of the
data, the data, and padding. The decoder goes by the length, so padding does not matter. The
size of a frame is computed as an `int`, and a request is looked at before the decoder checks
that it has a first byte.
-/

namespace BiddingAuction

open Foundation

namespace Transcoding

/-! ## Compression -/

inductive CompressionType where
  | uncompressed
  | gzip
  | zstd
deriving DecidableEq, Repr

def CompressionType.toUInt8 : CompressionType → UInt8
  | .uncompressed => 0
  | .gzip => 1
  | .zstd => 2

def toCompressionType (num : UInt8) : Except String CompressionType :=
  if num = 0 then .ok .uncompressed
  else if num = 1 then .ok .gzip
  else if num = 2 then .ok .zstd
  else .error ("Cannot convert value to CompressionType enum: " ++ toString num.toNat)

/-- The compression libraries, and the serialization of a `GetBids` message. -/
structure Library (GetBidsProto : Type) where
  serializeAsString : GetBidsProto → Bytes
  parseFromString : Bytes → Option GetBidsProto
  gzipCompress : Bytes → Except String Bytes
  gzipDecompress : Bytes → Except String Bytes
  zstdCompress : Bytes → Except String Bytes
  zstdDecompress : Bytes → Except String Bytes

/-- A frame is not encoded, or the process ends: a string is constructed with a negative
size. -/
inductive EncodeFailure where
  | compression (message : String)
  | aborted
deriving DecidableEq, Repr

structure DecodedGetBidsPayload (GetBidsProto : Type) where
  version : UInt8
  compressionType : CompressionType
  payloadLength : ℕ
  getBidsProto : GetBidsProto
deriving DecidableEq, Repr

def kTotalMetadataSizeBytes := 5

def kCompressionTypeMask : UInt8 := 15

def kPayloadVersionMask : UInt8 := 240

/-- A `size_t` as an `int`. -/
def toInt (n : ℕ) : ℤ := (n : ℤ).bmod (2 ^ 32)

section Framing

variable {GetBidsProto : Type} (lib : Library GetBidsProto)

def compress (uncompressed : Bytes) : CompressionType → Except String Bytes
  | .uncompressed => .ok uncompressed
  | .gzip => lib.gzipCompress uncompressed
  | .zstd => lib.zstdCompress uncompressed

def decompress (compressed : Bytes) : CompressionType → Except String Bytes
  | .uncompressed => .error "Invalid compression type supplied during decompression"
  | .gzip => lib.gzipDecompress compressed
  | .zstd => lib.zstdDecompress compressed

def encodeAndCompressGetBidsPayload (rawProto : GetBidsProto) (compressionType : CompressionType)
    (minimumPayloadSize : ℕ) : Except EncodeFailure Bytes :=
  match compress lib (lib.serializeAsString rawProto) compressionType with
  | .error message => .error (.compression message)
  | .ok compressedPayload =>
    let payloadSize := toInt
      (kTotalMetadataSizeBytes + max compressedPayload.length minimumPayloadSize)
    if payloadSize < 0 then .error .aborted
    else
      let writer : Writer := { capacity := payloadSize.toNat }
      let writer := writer.write [compressionType.toUInt8]
      let writer := writer.write (toBigEndian 4 compressedPayload.length)
      let writer := writer.write compressedPayload
      .ok writer.pad

def parseProto (data : Bytes) : Except String GetBidsProto :=
  match lib.parseFromString data with
  | none => .error "Cannot parse proto from GetBids payload"
  | some getBidsProto => .ok getBidsProto

def parsePayload (compressionType : CompressionType) (payload : Bytes) :
    Except String GetBidsProto :=
  if compressionType ≠ .uncompressed then do
    let decompressed ← decompress lib payload compressionType
    parseProto lib decompressed
  else parseProto lib payload

/-- The end of `DecodeGetBidsPayload`, with the data read. -/
def decodeData (firstByte : UInt8) (payloadLength : ℕ) (payload : Bytes) :
    Except String (DecodedGetBidsPayload GetBidsProto) := do
  let compressionType ← toCompressionType (firstByte &&& kCompressionTypeMask)
  let getBidsProto ← parsePayload lib compressionType payload
  pure
    { version := firstByte &&& kPayloadVersionMask
      compressionType := compressionType
      payloadLength := payloadLength
      getBidsProto := getBidsProto }

def decodeGetBidsPayload (encodedPayload : Bytes) :
    Except String (DecodedGetBidsPayload GetBidsProto) :=
  match readBigEndian 1 encodedPayload with
  | none => .error "Cannot read version/compression byte"
  | some (firstByte, rest) =>
    match readBigEndian 4 rest with
    | none => .error "Cannot read payload length bytes"
    | some (payloadLength, rest) =>
      match readBytes payloadLength rest with
      | none => .error "Cannot read payload"
      | some (payload, _) => decodeData lib (UInt8.ofNat firstByte) payloadLength payload

/-! ## Requests -/

def kMalformedRequest := "Malformed request."
def kMalformedCiphertext := "Malformed request ciphertext."
def kUnsupportedMetadataValues := "Unsupported version and compression combination"

/-- What the reactor takes from a request. -/
structure RawRequest (GetBidsProto : Type) where
  compressionType : CompressionType := .uncompressed
  rawRequest : GetBidsProto

/-- `ParseRawRequestBytestring`, none where a byte is read that is not there. -/
def parseRawRequestBytestring (r : RawRequest GetBidsProto) (payload : Bytes) :
    Option ((GrpcStatusCode × String) × RawRequest GetBidsProto) :=
  match payload.head? with
  | none => none
  | some front =>
    if front ≠ 0 ∧ front ≠ 1 ∧ front ≠ 2 then some ((.invalidArgument, kMalformedRequest), r)
    else
      match decodeGetBidsPayload lib payload with
      | .error _ => some ((.invalidArgument, kMalformedCiphertext), r)
      | .ok decodedPayload =>
        let r := { r with compressionType := decodedPayload.compressionType }
        if decodedPayload.version ≠ 0 then
          some ((.invalidArgument, kUnsupportedMetadataValues), r)
        else some ((.ok, ""), { r with rawRequest := decodedPayload.getBidsProto })

end Framing

section Decoding

variable {GetBidsProto : Type} {lib : Library GetBidsProto}

/-- The first bytes of a frame: the byte for version and type, the length, the data. -/
structure IsFrame (frame : Bytes) (firstByte : UInt8) (payload : Bytes) : Prop where
  bytes : ∃ lengthBytes, frame = firstByte :: lengthBytes ++ payload ∧ lengthBytes.length = 4 ∧
    ofBigEndian lengthBytes = payload.length

theorem decodeGetBidsPayload_append {frame payload : Bytes} {firstByte : UInt8}
    (h : IsFrame frame firstByte payload) (rest : Bytes) :
    decodeGetBidsPayload lib (frame ++ rest) = decodeData lib firstByte payload.length payload := by
  obtain ⟨lengthBytes, hframe, hlength, hvalue⟩ := h.bytes
  have hfirst : readBigEndian 1 (frame ++ rest) =
      some (firstByte.toNat, lengthBytes ++ (payload ++ rest)) := by
    refine readBigEndian_eq_some.mpr ⟨[firstByte], ?_, rfl, by simp [ofBigEndian]⟩
    rw [hframe]
    simp
  have hsecond : readBigEndian 4 (lengthBytes ++ (payload ++ rest)) =
      some (payload.length, payload ++ rest) :=
    readBigEndian_eq_some.mpr ⟨lengthBytes, rfl, hlength, hvalue⟩
  unfold decodeGetBidsPayload
  rw [hfirst]
  dsimp only
  rw [hsecond]
  dsimp only
  rw [readBytes_append rfl rest, UInt8.ofNat_toNat]

theorem payloadLength_of_decodeData {firstByte : UInt8} {payloadLength : ℕ} {payload : Bytes}
    {r : DecodedGetBidsPayload GetBidsProto}
    (h : decodeData lib firstByte payloadLength payload = .ok r) :
    r.payloadLength = payloadLength := by
  unfold decodeData at h
  cases htype : toCompressionType (firstByte &&& kCompressionTypeMask) with
  | error message =>
    rw [htype] at h
    cases h
  | ok compressionType =>
    rw [htype] at h
    cases hproto : parsePayload lib compressionType payload with
    | error message =>
      simp only [bind, Except.bind, hproto] at h
      cases h
    | ok getBidsProto =>
      simp only [bind, Except.bind, hproto] at h
      cases h
      rfl

theorem isFrame_of_decode {encodedPayload : Bytes} {r : DecodedGetBidsPayload GetBidsProto}
    (h : decodeGetBidsPayload lib encodedPayload = .ok r) :
    ∃ firstByte payload, IsFrame (encodedPayload.take (5 + r.payloadLength)) firstByte payload ∧
      payload.length = r.payloadLength ∧ 5 + r.payloadLength ≤ encodedPayload.length := by
  unfold decodeGetBidsPayload at h
  split at h
  · cases h
  · rename_i firstByte rest hfirst
    split at h
    · cases h
    · rename_i payloadLength rest' hsecond
      split at h
      · cases h
      · rename_i payload rest'' hthird
        obtain ⟨front, hsplit, hfrontLength, -⟩ := readBigEndian_eq_some.mp hfirst
        obtain ⟨lengthBytes, hsplit', hlength, hvalue⟩ := readBigEndian_eq_some.mp hsecond
        obtain ⟨hsplit'', hpayload⟩ := readBytes_eq_some.mp hthird
        obtain ⟨front, rfl⟩ := List.length_eq_one_iff.mp hfrontLength
        have hr := payloadLength_of_decodeData h
        have hall : encodedPayload = (front :: lengthBytes ++ payload) ++ rest'' := by
          rw [hsplit, hsplit', hsplit'']
          simp
        have htotal : (front :: lengthBytes ++ payload).length = 5 + r.payloadLength := by
          rw [List.length_append, List.length_cons, hlength, hpayload, hr]
        refine ⟨front, payload, ⟨lengthBytes, ?_, hlength, hvalue.trans hpayload.symm⟩,
          hpayload.trans hr.symm, ?_⟩
        · rw [hall, ← htotal, List.take_left]
        · rw [hall, List.length_append, htotal]
          omega

theorem decodeGetBidsPayload_of_take {encodedPayload : Bytes}
    {r : DecodedGetBidsPayload GetBidsProto}
    (h : decodeGetBidsPayload lib encodedPayload = .ok r) {other : Bytes}
    (hother : other.take (5 + r.payloadLength) = encodedPayload.take (5 + r.payloadLength)) :
    decodeGetBidsPayload lib other = .ok r := by
  obtain ⟨firstByte, payload, hframe, -, -⟩ := isFrame_of_decode h
  have hself : decodeGetBidsPayload lib _ = _ :=
    decodeGetBidsPayload_append hframe (encodedPayload.drop (5 + r.payloadLength))
  have hsame : decodeGetBidsPayload lib _ = _ :=
    decodeGetBidsPayload_append hframe (other.drop (5 + r.payloadLength))
  rw [List.take_append_drop] at hself
  rw [← hother, List.take_append_drop] at hsame
  rw [hsame, ← hself, h]

end Decoding

section RoundTrip

variable {GetBidsProto : Type} {lib : Library GetBidsProto}

/-- The libraries give back what they were given. -/
structure Library.RoundTrips (lib : Library GetBidsProto) : Prop where
  gzip : ∀ data compressed, lib.gzipCompress data = .ok compressed →
    lib.gzipDecompress compressed = .ok data
  zstd : ∀ data compressed, lib.zstdCompress data = .ok compressed →
    lib.zstdDecompress compressed = .ok data
  proto : ∀ message, lib.parseFromString (lib.serializeAsString message) = some message

theorem toInt_of_lt {n : ℕ} (h : n < 2 ^ 31) : toInt n = n := by
  unfold toInt Int.bmod
  dsimp only
  split
  · omega
  · omega

theorem toInt_lt (n : ℕ) : toInt n < 2 ^ 31 := by
  unfold toInt Int.bmod
  dsimp only
  split
  · omega
  · omega

/-- A frame of a size that is an `int`. -/
theorem encodeAndCompressGetBidsPayload_eq {rawProto : GetBidsProto}
    {compressionType : CompressionType} {compressed : Bytes} {minimumPayloadSize : ℕ}
    (hcompressed : compress lib (lib.serializeAsString rawProto) compressionType = .ok compressed)
    (hsize : 5 + max compressed.length minimumPayloadSize < 2 ^ 31) :
    encodeAndCompressGetBidsPayload lib rawProto compressionType minimumPayloadSize =
      .ok ((compressionType.toUInt8 :: toBigEndian 4 compressed.length ++ compressed) ++
        List.replicate (max compressed.length minimumPayloadSize - compressed.length) 0) := by
  have hint : toInt (kTotalMetadataSizeBytes + max compressed.length minimumPayloadSize) =
      ((5 + max compressed.length minimumPayloadSize : ℕ) : ℤ) := toInt_of_lt hsize
  unfold encodeAndCompressGetBidsPayload
  rw [hcompressed]
  dsimp only
  rw [hint, if_neg (by omega), Int.toNat_natCast]
  have hframe : [[compressionType.toUInt8], toBigEndian 4 compressed.length, compressed].flatten =
      compressionType.toUInt8 :: toBigEndian 4 compressed.length ++ compressed := by simp
  have hlength : (compressionType.toUInt8 :: toBigEndian 4 compressed.length ++ compressed).length =
      5 + compressed.length := by
    rw [List.length_append, List.length_cons, length_toBigEndian]
  have hwritten : [[compressionType.toUInt8], toBigEndian 4 compressed.length, compressed].foldl
      Writer.write { capacity := 5 + max compressed.length minimumPayloadSize } = _ :=
    Writer.foldl_write (by
      rw [hframe, hlength, List.length_nil]
      dsimp only
      omega)
  have hpadding : 5 + max compressed.length minimumPayloadSize - (5 + compressed.length) =
      max compressed.length minimumPayloadSize - compressed.length := by omega
  refine congrArg Except.ok ((congrArg Writer.pad hwritten).trans ?_)
  unfold Writer.pad
  dsimp only
  rw [hframe, List.nil_append, hlength, hpadding]

/-- The length of a frame is an `int`. -/
theorem length_encodeAndCompressGetBidsPayload_lt {rawProto : GetBidsProto}
    {compressionType : CompressionType} {minimumPayloadSize : ℕ} {encoded : Bytes}
    (h : encodeAndCompressGetBidsPayload lib rawProto compressionType minimumPayloadSize =
      .ok encoded) : encoded.length < 2 ^ 31 := by
  unfold encodeAndCompressGetBidsPayload at h
  split at h
  · cases h
  · rename_i compressedPayload hcompressed
    have hint := toInt_lt (kTotalMetadataSizeBytes +
      max compressedPayload.length minimumPayloadSize)
    dsimp only at h
    split at h
    · cases h
    · cases h
      rw [Writer.length_pad]
      · rw [Writer.capacity_write, Writer.capacity_write, Writer.capacity_write]
        dsimp only
        omega
      · refine Writer.length_write_le (Writer.length_write_le (Writer.length_write_le ?_ _) _) _
        exact Nat.zero_le _

theorem toCompressionType_toUInt8 (compressionType : CompressionType) :
    toCompressionType (compressionType.toUInt8 &&& kCompressionTypeMask) = .ok compressionType ∧
      compressionType.toUInt8 &&& kPayloadVersionMask = 0 := by
  cases compressionType with
  | uncompressed => exact ⟨rfl, rfl⟩
  | gzip => exact ⟨rfl, rfl⟩
  | zstd => exact ⟨rfl, rfl⟩

theorem decodeData_compress (hlib : lib.RoundTrips) {rawProto : GetBidsProto}
    {compressionType : CompressionType} {compressed : Bytes}
    (hcompressed : compress lib (lib.serializeAsString rawProto) compressionType =
      .ok compressed) :
    decodeData lib compressionType.toUInt8 compressed.length compressed =
      .ok ⟨0, compressionType, compressed.length, rawProto⟩ := by
  have hproto : parseProto lib (lib.serializeAsString rawProto) = .ok rawProto := by
    unfold parseProto
    rw [hlib.proto]
  obtain ⟨htype, hversion⟩ := toCompressionType_toUInt8 compressionType
  have hpayload : parsePayload lib compressionType compressed = .ok rawProto := by
    unfold parsePayload
    cases compressionType with
    | uncompressed =>
      cases hcompressed
      exact hproto
    | gzip =>
      have hdecompressed : decompress lib compressed .gzip =
          .ok (lib.serializeAsString rawProto) := hlib.gzip _ _ hcompressed
      rw [if_pos (by decide), hdecompressed]
      exact hproto
    | zstd =>
      have hdecompressed : decompress lib compressed .zstd =
          .ok (lib.serializeAsString rawProto) := hlib.zstd _ _ hcompressed
      rw [if_pos (by decide), hdecompressed]
      exact hproto
  unfold decodeData
  rw [htype, hversion]
  simp only [bind, Except.bind, hpayload]
  rfl

theorem decode_encode (hlib : lib.RoundTrips) {rawProto : GetBidsProto}
    {compressionType : CompressionType} {compressed : Bytes} {minimumPayloadSize : ℕ}
    (hcompressed : compress lib (lib.serializeAsString rawProto) compressionType = .ok compressed)
    (hsize : 5 + max compressed.length minimumPayloadSize < 2 ^ 31) :
    ∃ encoded, encodeAndCompressGetBidsPayload lib rawProto compressionType minimumPayloadSize =
        .ok encoded ∧ encoded.length = 5 + max compressed.length minimumPayloadSize ∧
      ∀ padding, decodeGetBidsPayload lib (encoded ++ padding) =
        .ok ⟨0, compressionType, compressed.length, rawProto⟩ := by
  refine ⟨_, encodeAndCompressGetBidsPayload_eq hcompressed hsize, ?_, ?_⟩
  · simp only [List.length_append, List.length_cons, length_toBigEndian, List.length_replicate]
    omega
  · intro padding
    have hframe : IsFrame (compressionType.toUInt8 :: toBigEndian 4 compressed.length ++ compressed)
        compressionType.toUInt8 compressed :=
      ⟨_, rfl, length_toBigEndian _ _, ofBigEndian_toBigEndian (by omega)⟩
    rw [List.append_assoc, decodeGetBidsPayload_append hframe]
    exact decodeData_compress hlib hcompressed

def frameOf (payload : Bytes) : Bytes := payload.take (5 + ofBigEndian ((payload.drop 1).take 4))

theorem frameOf_eq {encodedPayload : Bytes} {r : DecodedGetBidsPayload GetBidsProto}
    (h : decodeGetBidsPayload lib encodedPayload = .ok r) :
    frameOf encodedPayload = encodedPayload.take (5 + r.payloadLength) := by
  obtain ⟨firstByte, payload, hframe, hpayload, -⟩ := isFrame_of_decode h
  obtain ⟨lengthBytes, hbytes, hlength, hvalue⟩ := hframe.bytes
  have hall : encodedPayload = firstByte :: (lengthBytes ++ (payload ++
      encodedPayload.drop (5 + r.payloadLength))) := by
    calc encodedPayload = encodedPayload.take (5 + r.payloadLength) ++
          encodedPayload.drop (5 + r.payloadLength) := (List.take_append_drop _ _).symm
      _ = _ := by rw [hbytes]; simp
  have hheader : (encodedPayload.drop 1).take 4 = lengthBytes := by
    rw [hall, List.drop_one, List.tail_cons, ← hlength, List.take_left]
  unfold frameOf
  rw [hheader, hvalue, hpayload]

/-- The decoder reads a message from a frame that is there, and from nothing else. -/
structure ReadsFrame (lib : Library GetBidsProto) (encodedPayload : Bytes) : Prop where
  length : ∀ r, decodeGetBidsPayload lib encodedPayload = .ok r →
    5 + r.payloadLength ≤ encodedPayload.length
  frame : ∀ r, decodeGetBidsPayload lib encodedPayload = .ok r →
    ∀ rest, decodeGetBidsPayload lib (frameOf encodedPayload ++ rest) = .ok r

theorem readsFrame (encodedPayload : Bytes) : ReadsFrame lib encodedPayload := by
  refine ⟨fun r h => ?_, fun r h rest => ?_⟩
  · obtain ⟨-, -, -, -, hlength⟩ := isFrame_of_decode h
    exact hlength
  · obtain ⟨-, -, -, -, hlength⟩ := isFrame_of_decode h
    refine decodeGetBidsPayload_of_take h ?_
    rw [frameOf_eq h, List.take_left' (List.length_take_of_le hlength)]

/-- A request reads nothing but what is there, and a message that is taken from it is one of
its frame. -/
def ParsesWithin (lib : Library GetBidsProto) (r : RawRequest GetBidsProto) (payload : Bytes) :
    Prop :=
  ∃ parsed, parseRawRequestBytestring lib r payload = some parsed ∧
    (parsed.1.1 = .ok → ∀ rest,
      parseRawRequestBytestring lib r (frameOf payload ++ rest) = some parsed)

theorem parsesWithin_iff (r : RawRequest GetBidsProto) (payload : Bytes) :
    ParsesWithin lib r payload ↔ payload ≠ [] := by
  constructor
  · rintro ⟨parsed, hparsed, -⟩ rfl
    cases hparsed
  · intro hnonempty
    cases payload with
    | nil => exact absurd rfl hnonempty
    | cons front tail =>
      have hhead (rest : Bytes) : (frameOf (front :: tail) ++ rest).head? = some front := by
        unfold frameOf
        rw [Nat.add_comm, List.take_succ_cons]
        rfl
      unfold ParsesWithin parseRawRequestBytestring
      rw [List.head?_cons]
      dsimp only
      by_cases hfront : front ≠ 0 ∧ front ≠ 1 ∧ front ≠ 2
      · rw [if_pos hfront]
        exact ⟨_, rfl, fun hok => nomatch hok⟩
      · rw [if_neg hfront]
        cases hdecoded : decodeGetBidsPayload lib (front :: tail) with
        | error message => exact ⟨_, rfl, fun hok => nomatch hok⟩
        | ok decodedPayload =>
          dsimp only
          refine ⟨_, by rw [← apply_ite some], fun _ rest => ?_⟩
          rw [hhead]
          dsimp only
          rw [if_neg hfront, (readsFrame (front :: tail)).frame _ hdecoded rest]
          dsimp only
          rw [← apply_ite some]

/-- The round trip holds if and only if the size of the frame is an `int`, a request is read
within its bytes if and only if it has any, and the decoder always stays within them. -/
theorem framing_iff (hlib : lib.RoundTrips) {rawProto : GetBidsProto}
    {compressionType : CompressionType} {compressed : Bytes}
    (hcompressed : compress lib (lib.serializeAsString rawProto) compressionType = .ok compressed)
    (minimumPayloadSize : ℕ) (r : RawRequest GetBidsProto) (payload : Bytes) :
    ((∃ encoded,
        encodeAndCompressGetBidsPayload lib rawProto compressionType minimumPayloadSize =
          .ok encoded ∧ encoded.length = 5 + max compressed.length minimumPayloadSize ∧
        ∀ padding, decodeGetBidsPayload lib (encoded ++ padding) =
          .ok ⟨0, compressionType, compressed.length, rawProto⟩) ↔
      5 + max compressed.length minimumPayloadSize < 2 ^ 31) ∧
    (ParsesWithin lib r payload ↔ payload ≠ []) ∧ ReadsFrame lib payload := by
  refine ⟨⟨?_, decode_encode hlib hcompressed⟩, parsesWithin_iff r payload, readsFrame payload⟩
  rintro ⟨encoded, hencoded, hlength, -⟩
  rw [← hlength]
  exact length_encodeAndCompressGetBidsPayload_lt hencoded

/-- A message of bytes, and libraries that compress nothing. -/
def plainLibrary : Library Bytes where
  serializeAsString := id
  parseFromString := some
  gzipCompress := .ok
  gzipDecompress := .ok
  zstdCompress := .ok
  zstdDecompress := .ok

theorem plainLibrary_roundTrips : plainLibrary.RoundTrips where
  gzip _ _ h := h.symm
  zstd _ _ h := h.symm
  proto _ := rfl

/-- A request that decrypts to nothing is looked at where it has no byte. -/
theorem not_parsesWithin_example :
    ¬ ParsesWithin plainLibrary { rawRequest := [] } [] := by
  rintro ⟨parsed, hparsed, -⟩
  cases hparsed

theorem framing_iff_example :
    (∃ encoded, encodeAndCompressGetBidsPayload plainLibrary [7, 8] .gzip 5 = .ok encoded ∧
      encoded.length = 10 ∧
      ∀ padding, decodeGetBidsPayload plainLibrary (encoded ++ padding) =
        .ok ⟨0, .gzip, 2, [7, 8]⟩) ∧
    ParsesWithin plainLibrary { rawRequest := [] } [1, 0, 0, 0, 1, 9] := by
  obtain ⟨hround, hparse, -⟩ :=
    @framing_iff _ plainLibrary plainLibrary_roundTrips [7, 8] .gzip _ rfl
    5 { rawRequest := [] } [1, 0, 0, 0, 1, 9]
  exact ⟨hround.mpr (by decide), hparse.mpr (by decide)⟩

end RoundTrip

end Transcoding

end BiddingAuction
