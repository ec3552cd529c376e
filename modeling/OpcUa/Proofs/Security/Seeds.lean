import OpcUa.Key.Pkcs8
import OpcUa.Proofs.Der.Written

/-!
# Seeds are read back

An Ed25519 key file gives the public half of its seed, and a public half that the file states has to
be that one.
-/

namespace OpcUa.Key

/-- The file of a seed: in the first version or, with a public half, in the second one. -/
def seedFile (seed : List UInt8) (half? : Option (List UInt8)) : List UInt8 :=
  Der.sequenceOf [
    Der.wrap Der.integer [if half?.isSome then 1 else 0],
    Der.wrap Der.sequence edwardsAlgorithm,
    Der.wrap Der.octetString (Der.wrap Der.octetString seed),
    (half?.map fun half => Der.wrap publicTag (0 :: half)).getD []]

theorem unwrap?_sequenceOf {version : UInt8} {algorithm key rest : List UInt8}
    (small : version < 0x80) (short : algorithm.length + key.length + rest.length < 65521)
    (plain : rest.head? ≠ some (Der.context 0)) :
    unwrap? (Der.sequenceOf [Der.wrap Der.integer [version], Der.wrap Der.sequence algorithm,
        Der.wrap Der.octetString key, rest]) =
      (statedIn? version.toNat rest).map fun stated? => { algorithm, key, stated? } := by
  generalize parts_eq : [Der.wrap Der.integer [version], Der.wrap Der.sequence algorithm,
    Der.wrap Der.octetString key, rest] = parts
  have fits : parts.flatten.length < 65536 := by
    have first : (Der.wrap Der.integer [version]).length = 3 := rfl
    have second := Der.length_wrap_le Der.sequence (show algorithm.length < 65536 by omega)
    have third := Der.length_wrap_le Der.octetString (show key.length < 65536 by omega)
    rw [← parts_eq]
    simp only [List.flatten_cons, List.flatten_nil, List.append_nil, List.length_append, first]
    omega
  rw [unwrap?, Der.sequenceOf, Der.whole?_wrap (by decide) fits, ← parts_eq]
  simp only [List.flatten_cons, List.flatten_nil, List.append_nil, Option.bind_eq_bind,
    Option.bind_some]
  rw [Der.leads_natural? small, Option.bind_some, Der.leads_minimal? (by decide) (by omega),
    Option.bind_some, Der.leads_minimal? (by decide) (by omega), Option.bind_some,
    skipAttributes?, if_neg plain, Option.bind_some, Option.map_eq_bind]
  rfl

theorem stated?_wrap {half : List UInt8} (short : half.length < 65535) :
    stated? (Der.wrap publicTag (0 :: half)) = some half := by
  have own : ¬ (Der.wrap publicTag (0 :: half)).head? = some (Der.context 1) := by
    show ¬ some publicTag = _
    decide
  have fits : (0 :: half).length < 65536 := Nat.succ_lt_succ short
  rw [stated?, if_neg own, Der.whole?_wrap (by decide) fits]
  rfl

theorem unwrap?_seedFile {seed : List UInt8} {half? : Option (List UInt8)}
    (sized : seed.length = 32) (fits : ∀ half ∈ half?, half.length = 32) :
    unwrap? (seedFile seed half?) =
      some ⟨edwardsAlgorithm, Der.wrap Der.octetString seed, half?⟩ := by
  have wrapped := Der.length_wrap_le Der.octetString (show seed.length < 65536 by omega)
  have algorithm : edwardsAlgorithm.length = 5 := rfl
  cases half? with
  | none =>
    refine (unwrap?_sequenceOf (by decide) ?_ (by simp)).trans rfl
    simp only [Option.map_none, Option.getD_none, List.length_nil]
    omega
  | some half =>
    have sized_half := fits half rfl
    have bits := Der.length_wrap_le publicTag (show (0 :: half).length < 65536 by simp [sized_half])
    rw [List.length_cons] at bits
    have small : (1 : UInt8) < 0x80 := by decide
    refine (unwrap?_sequenceOf small ?_ ?_).trans ?_
    · simp only [Option.map_some, Option.getD_some]
      omega
    · show some publicTag ≠ _
      decide
    · show ((stated? (Der.wrap publicTag (0 :: half))).map some).map _ = _
      rw [stated?_wrap (by omega)]
      rfl

/-- A seed of 32 bytes in a file gives its public half, and with another public half beside it
nothing. -/
theorem publicKey?_seedFile {seed : List UInt8} {half? : Option (List UInt8)}
    (sized : seed.length = 32) (fits : ∀ half ∈ half?, half.length = 32) :
    publicKey? (seedFile seed half?) =
      if half?.getD (Edwards.publicKey seed) = Edwards.publicKey seed
      then some (Edwards.publicKey seed) else none := by
  rw [publicKey?, unwrap?_seedFile sized fits, Option.bind_eq_bind, Option.bind_some]
  dsimp only
  rw [if_pos rfl, edwardsPublicKey?, Der.whole?_wrap (by decide) (by omega), Option.bind_eq_bind,
    Option.bind_some]
  simp only [sized, true_and]

end OpcUa.Key
