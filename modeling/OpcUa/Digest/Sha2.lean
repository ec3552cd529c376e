import OpcUa.Bytes

/-!
# SHA-2

The message is padded to blocks of sixteen words, and each block is compressed into eight words of
state. The digest is those words after the last block, high byte first. The members of the family
differ in the size of a word, in their constants and in how a word is mixed.
-/

namespace OpcUa.Sha2

structure State (W : Type) where
  a : W
  b : W
  c : W
  d : W
  e : W
  f : W
  g : W
  h : W

structure Member (W : Type) where
  /-- The bytes of a word. -/
  width : Nat
  ofNat : Nat → W
  toNat : W → Nat
  initial : State W
  roundConstants : List W
  /-- How the words two and fifteen places back are mixed into the schedule. -/
  mix2 : W → W
  mix15 : W → W
  /-- How the words `a` and `e` of the state are mixed in a round. -/
  mixA : W → W
  mixE : W → W

variable {W : Type}

def State.words (s : State W) : List W :=
  [s.a, s.b, s.c, s.d, s.e, s.f, s.g, s.h]

def State.add [Add W] (x y : State W) : State W :=
  ⟨x.a + y.a, x.b + y.b, x.c + y.c, x.d + y.d, x.e + y.e, x.f + y.f, x.g + y.g, x.h + y.h⟩

namespace Member

/-- The word that bytes spell, high byte first. -/
def wordOf (m : Member W) (bytes : List UInt8) : W :=
  m.ofNat (bytes.foldl (fun n b => n * 256 + b.toNat) 0)

/-- The sixteen words of a block, latest first. -/
def wordsOf (m : Member W) (block : List UInt8) : List W :=
  (List.range 16).reverse.map fun i => m.wordOf ((block.drop (i * m.width)).take m.width)

/-- A one bit, zeros up to two words before the end of a block, and the length in bits. -/
def padding (m : Member W) (length : Nat) : List UInt8 :=
  let block := 16 * m.width
  let zeros := (2 * block - 1 - 2 * m.width - length % block) % block
  0x80 :: List.replicate zeros 0 ++ fixedBytes (2 * m.width) (8 * length)

def bytes (m : Member W) (s : State W) : List UInt8 :=
  s.words.flatMap fun w => fixedBytes m.width (m.toNat w)

theorem length_bytes (m : Member W) (s : State W) : (m.bytes s).length = 8 * m.width := by
  simp only [bytes, State.words, List.length_flatMap, length_fixedBytes, List.map_cons,
    List.map_nil, List.sum_cons, List.sum_nil]
  omega

variable [Add W]

/-- A schedule with `n` more words, latest first. Each one comes from the sixteen before it. -/
def extend (m : Member W) : Nat → List W → List W
  | 0, words => words
  | n + 1, words =>
    let back (places : Nat) : W := words.getD (places - 1) (m.ofNat 0)
    extend m n ((back 16 + m.mix15 (back 15) + back 7 + m.mix2 (back 2)) :: words)

/-- A word for each round. -/
def schedule (m : Member W) (block : List UInt8) : List W :=
  (m.extend (m.roundConstants.length - 16) (m.wordsOf block)).reverse

variable [AndOp W] [XorOp W] [Complement W]

def round (m : Member W) (s : State W) (constant word : W) : State W :=
  let choice := (s.e &&& s.f) ^^^ (~~~s.e &&& s.g)
  let majority := (s.a &&& s.b) ^^^ (s.a &&& s.c) ^^^ (s.b &&& s.c)
  let t₁ := s.h + m.mixE s.e + choice + constant + word
  let t₂ := m.mixA s.a + majority
  ⟨t₁ + t₂, s.a, s.b, s.c, s.d + t₁, s.e, s.f, s.g⟩

def compress (m : Member W) (s : State W) (block : List UInt8) : State W :=
  s.add ((m.roundConstants.zip (m.schedule block)).foldl (fun s (k, w) => m.round s k w) s)

/-- The state after `n` more blocks of the input. -/
def absorb (m : Member W) : Nat → State W → List UInt8 → State W
  | 0, s, _ => s
  | n + 1, s, input =>
    absorb m n (m.compress s (input.take (16 * m.width))) (input.drop (16 * m.width))

def digest (m : Member W) (message : List UInt8) : List UInt8 :=
  let padded := message ++ m.padding message.length
  m.bytes (m.absorb (padded.length / (16 * m.width)) m.initial padded)

theorem length_digest (m : Member W) (message : List UInt8) :
    (m.digest message).length = 8 * m.width :=
  m.length_bytes _

end Member

end OpcUa.Sha2
