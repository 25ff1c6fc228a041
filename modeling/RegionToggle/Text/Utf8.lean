import RegionToggle.Text.Basic

/-!
# Texts as bytes

`encode` and `decode` tie texts to their UTF-8 bytes. Bytes that are no UTF-8 have a first fault:
the index of the character that goes wrong, and how many bytes of it stand before the one that
cannot follow, or that the bytes end inside it. `lossy` shows any bytes, with U+FFFD for each
stretch that is no character.
-/

namespace RegionToggle

abbrev Bytes := List UInt8

namespace Utf8

/-- The bytes that may follow the first byte of a character, as one closed range for each; `none`
for a byte that starts no character. -/
def tailRanges? (first : UInt8) : Option (List (UInt8 × UInt8)) :=
  let tail : UInt8 × UInt8 := (0x80, 0xBF)
  if first < 0x80 then some []
  else if first < 0xC2 then none
  else if first < 0xE0 then some [tail]
  else if first = 0xE0 then some [(0xA0, 0xBF), tail]
  else if first = 0xED then some [(0x80, 0x9F), tail]
  else if first < 0xF0 then some [tail, tail]
  else if first = 0xF0 then some [(0x90, 0xBF), tail, tail]
  else if first < 0xF4 then some [tail, tail, tail]
  else if first = 0xF4 then some [(0x80, 0x8F), tail, tail]
  else none

/-- What the bytes of one character turn out to be. -/
inductive Verdict where
  /-- A whole character. -/
  | whole
  /-- A byte stands where it cannot. -/
  | broken
  /-- The bytes end inside the character. -/
  | cut
  deriving DecidableEq, Repr

/-- Checks the bytes after a first one against their ranges; the number counts those that fit. -/
def checkTail : List (UInt8 × UInt8) → Bytes → Verdict × Nat
  | [], _ => (.whole, 0)
  | _ :: _, [] => (.cut, 0)
  | (low, high) :: ranges, b :: rest =>
    if low ≤ b ∧ b ≤ high then
      let (verdict, count) := checkTail ranges rest
      (verdict, count + 1)
    else (.broken, 0)

/-- The character that starts with `first`: its verdict, and how many of the next bytes are its. -/
def checkChar (first : UInt8) (rest : Bytes) : Verdict × Nat :=
  match tailRanges? first with
  | none => (.broken, 0)
  | some ranges => checkTail ranges rest

/-- The first fault of bytes that are no UTF-8: where the character starts, and how many bytes of
it there are before one that cannot follow. There is no length when the bytes end too early. -/
structure Fault where
  index : Nat
  length? : Option Nat
  deriving DecidableEq, Repr

def Fault.message (fault : Fault) : String :=
  match fault with
  | ⟨index, some length⟩ => s!"invalid utf-8 sequence of {length} bytes from index {index}"
  | ⟨index, none⟩ => s!"incomplete utf-8 byte sequence from index {index}"

/-- The first fault, if there is one, of bytes that start at `index`. -/
def findFault? (index : Nat) : Bytes → Option Fault
  | [] => none
  | first :: rest =>
    match checkChar first rest with
    | (.whole, count) => findFault? (index + count + 1) (rest.drop count)
    | (.broken, count) => some ⟨index, some (count + 1)⟩
    | (.cut, _) => some ⟨index, none⟩
  termination_by bytes => bytes.length
  decreasing_by simp only [List.length_drop, List.length_cons]; omega

def encode (t : Text) : Bytes := t.flatMap String.utf8EncodeChar

def decode? (bytes : Bytes) : Option Text :=
  (String.fromUTF8? bytes.toByteArray).map String.toList

theorem decode?_encode (t : Text) : decode? (encode t) = some t := by
  have h : (encode t).toByteArray = t.utf8Encode := rfl
  have hv : t.utf8Encode.IsValidUTF8 := ⟨t, rfl⟩
  have hs : String.fromUTF8 t.utf8Encode hv = String.ofList t := rfl
  simp [decode?, String.fromUTF8?, h, hv, hs]

theorem encode_of_decode? {bytes : Bytes} {t : Text} (h : decode? bytes = some t) :
    encode t = bytes := by
  unfold decode? String.fromUTF8? at h
  split at h
  · next hv =>
    obtain ⟨u, hu⟩ := hv
    have hs : String.fromUTF8 bytes.toByteArray ⟨u, hu⟩ = String.ofList u :=
      String.toByteArray_inj.mp hu
    simp only [hs, Option.map_some, String.toList_ofList, Option.some.injEq] at h
    subst h
    have he : (encode u).toByteArray = bytes.toByteArray := hu.symm
    have := congrArg (fun b => b.data.toList) he
    simpa [List.toList_data_toByteArray] using this
  · simp at h

theorem decode?_eq_some_iff {bytes : Bytes} {t : Text} :
    decode? bytes = some t ↔ encode t = bytes :=
  ⟨encode_of_decode?, fun h => h ▸ decode?_encode t⟩

theorem encode_injective {t u : Text} (h : encode t = encode u) : t = u := by
  have := congrArg decode? h
  simpa [decode?_encode] using this

/-- The text with these bytes, or their first fault. -/
def decode (bytes : Bytes) : Except Fault Text :=
  match decode? bytes with
  | some t => .ok t
  | none => .error ((findFault? 0 bytes).getD ⟨bytes.length, none⟩)

theorem decode_encode (t : Text) : decode (encode t) = .ok t := by
  simp [decode, decode?_encode]

theorem decode_eq_ok_iff {bytes : Bytes} {t : Text} :
    decode bytes = .ok t ↔ encode t = bytes := by
  rw [← decode?_eq_some_iff]
  unfold decode
  cases decode? bytes <;> simp

/-- Shows any bytes: U+FFFD stands for each stretch of bytes that is no character. -/
def lossy : Bytes → Text
  | [] => []
  | first :: rest =>
    match checkChar first rest with
    | (.whole, count) =>
      (decode? (first :: rest.take count)).getD ['\uFFFD'] ++ lossy (rest.drop count)
    | (_, count) => '\uFFFD' :: lossy (rest.drop count)
  termination_by bytes => bytes.length
  decreasing_by all_goals simp only [List.length_drop, List.length_cons]; omega

end Utf8

end RegionToggle
