import OpcUa.Command.Offline
import OpcUa.Proofs.Application.Saved

/-!
# Initialization

Certificate, key and configuration are written one after another, and nothing is undone: where a
write fails, the files before it stay written, and what has arrived of it stays as well.
-/

namespace OpcUa

/-! ### Commands on a disk -/

namespace Console

variable {α β : Type}

/-- How a command ends on a disk, with the lines printed up to then and the disk after it. -/
def runOn (c : Console (StateM Disk) α) (lines : List String) (d : Disk) :
    Except String α × List String × Disk :=
  let ((result, lines), d) := StateT.run (StateT.run c.run lines) d
  (result, lines, d)

variable (lines : List String) (d : Disk)

theorem runOn_bind (x : Console (StateM Disk) α) (f : α → Console (StateM Disk) β) :
    (x >>= f).runOn lines d =
      match x.runOn lines d with
      | (.ok a, lines, after) => (f a).runOn lines after
      | (.error fault, lines, after) => (.error fault, lines, after) := by
  unfold runOn
  rw [ExceptT.run_bind, StateT.run_bind, StateT.run_bind]
  show (match StateT.run (StateT.run x.run lines) d with | ((result, lines), after) => _) = _
  rcases StateT.run (StateT.run x.run lines) d with ⟨⟨_ | _, _⟩, _⟩ <;> rfl

theorem runOn_liftM (action : StateM Disk α) :
    (liftM action : Console (StateM Disk) α).runOn lines d =
      (.ok (StateT.run action d).1, lines, (StateT.run action d).2) := rfl

theorem runOn_print (line : String) :
    (print line : Console (StateM Disk) Unit).runOn lines d = (.ok (), line :: lines, d) := rfl

theorem runOn_ofExcept (result : Except String α) :
    (ofExcept result : Console (StateM Disk) α).runOn lines d = (result, lines, d) := by
  cases result <;> rfl

end Console

theorem Offline.run_eq (e : Environment) (i : Invocation) (d : Disk) :
    Offline.run e i d =
      match (Command.run e i : Console (StateM Disk) (List Listener)).runOn [] d with
      | (result, lines, after) => (lines.reverse, result, after) := by
  unfold Offline.run Console.outcome Console.runOn
  dsimp only
  rw [StateT.run_bind]
  rfl

namespace Command

variable (e : Environment) (lines : List String) (d : Disk)

theorem runOn_attempt {α : Type} (context : String) (action : StateM Disk (Except String α)) :
    (attempt context action).runOn lines d =
      match StateT.run action d with
      | (.ok a, after) => (.ok a, lines, after)
      | (.error reason, after) => (.error (Console.chain [context] reason []), lines, after) := by
  unfold attempt
  rw [Console.runOn_bind, Console.runOn_liftM]
  rcases StateT.run action d with ⟨_ | _, _⟩ <;> rfl

/-- The directory can be made, and there is no identity unless it is to be replaced. -/
def HasRoom (force : Bool) : Prop :=
  d.refusal e.directory = none ∧ (force = false → d.bytes? e.certificatePath = none)

theorem runOn_makeRoom (force : Bool) :
    ∃ result, (makeRoom e force).runOn lines d = (result, lines, d) ∧
      (result = .ok () ↔ HasRoom e d force) := by
  unfold makeRoom HasRoom
  rw [Console.runOn_bind, runOn_attempt, Disk.run_makeDirectory]
  cases d.refusal e.directory with
  | some reason => exact ⟨_, rfl, by simp⟩
  | none =>
    dsimp only
    rw [Console.runOn_bind, Console.runOn_liftM, Disk.run_isPresent]
    cases d.bytes? e.certificatePath <;> cases force <;> exact ⟨_, rfl, by simp⟩

theorem runOn_saveIdentity (i : Identity) :
    (saveIdentity e i).runOn lines d =
      match d.run (i.save e.certificatePath e.keyPath) with
      | (.ok _, after) => (.ok (), lines, after)
      | (.error fault, after) =>
        (.error (Console.chain ["cannot write identity"] fault.message fault.sources), lines,
          after) := by
  unfold saveIdentity
  rw [Console.runOn_bind, Console.runOn_liftM]
  unfold Disk.run
  rcases StateT.run (i.save e.certificatePath e.keyPath).run d with ⟨_ | _, _⟩ <;> rfl

/-- How writing a configuration ends: there is one, it is written, or that fails. -/
theorem runOn_writeConfig (path : String) (c : ApplicationConfig) :
    ∃ result printed after, (writeConfig path c).runOn lines d = (result, printed, after) ∧
      ((d.bytes? path).isSome ∧ result = .ok () ∧ after = d ∨
        d.bytes? path = none ∧ d.IsWritable path ∧ result = .ok () ∧
          after = d.put path c.toText.toUTF8.toList ∨
        d.bytes? path = none ∧ (∃ fault, result = .error fault) ∧
          d.Fails path c.toText.toUTF8.toList after) := by
  unfold writeConfig
  rw [Console.runOn_bind, Console.runOn_liftM, Disk.run_isPresent]
  cases d.bytes? path with
  | some bytes => exact ⟨_, _, _, rfl, .inl ⟨rfl, rfl, rfl⟩⟩
  | none =>
    dsimp only [Option.isSome_none]
    rw [if_neg Bool.false_ne_true, Console.runOn_bind, runOn_attempt, Disk.run_write]
    obtain ⟨writable, written⟩ | ⟨reason, after, written, fails⟩ :=
      d.write_cases path c.toText.toUTF8.toList <;> rw [written]
    · exact ⟨_, _, _, rfl, .inr (.inl ⟨rfl, writable, rfl, rfl⟩)⟩
    · exact ⟨_, _, _, rfl, .inr (.inr ⟨rfl, ⟨_, rfl⟩, fails⟩)⟩

/-! ### Ends -/

/-- The disk with the identity in the files of the application. -/
def withIdentity (i : Identity) : Disk :=
  (d.put e.certificatePath i.certificate.der).put e.keyPath i.privateKey.der

variable (config : Option String) (force : Bool) (uri : Option String)

/-- The identity that init makes. -/
def IsMinted (i : Identity) : Prop :=
  Identity.mint "uastack" e.hostName (e.initialUri uri) e.draw = .ok i

/-- The configuration that init writes. -/
def configBytes : List UInt8 :=
  (initialConfig e (e.initialUri uri)).toText.toUTF8.toList

/-- How init ends: the result, the files that it has changed, and the disk after it. Its writes come
one after another, and the last one of them may have failed. -/
inductive InitEnds : Except String Unit → List String → Disk → Prop
  | barred {fault} (full : ¬ HasRoom e d force) : InitEnds (.error fault) [] d
  | unminted {fault} (room : HasRoom e d force) (failed : ∀ i, ¬ IsMinted e uri i) :
      InitEnds (.error fault) [] d
  | uncertified {fault i after} (room : HasRoom e d force) (minted : IsMinted e uri i)
      (fails : d.Fails e.certificatePath i.certificate.der after) :
      InitEnds (.error fault) (d.begun e.certificatePath) after
  | keyless {fault i after} (room : HasRoom e d force) (minted : IsMinted e uri i)
      (certified : d.IsWritable e.certificatePath)
      (fails : (d.put e.certificatePath i.certificate.der).Fails e.keyPath i.privateKey.der after) :
      InitEnds (.error fault) (e.certificatePath :: d.begun e.keyPath) after
  | unconfigured {fault i after} (room : HasRoom e d force) (minted : IsMinted e uri i)
      (certified : d.IsWritable e.certificatePath) (keyed : d.IsWritable e.keyPath)
      (absent : (withIdentity e d i).bytes? (e.configPath config) = none)
      (fails : (withIdentity e d i).Fails (e.configPath config) (configBytes e uri) after) :
      InitEnds (.error fault) (e.certificatePath :: e.keyPath :: d.begun (e.configPath config))
        after
  | kept {i} (room : HasRoom e d force) (minted : IsMinted e uri i)
      (certified : d.IsWritable e.certificatePath) (keyed : d.IsWritable e.keyPath)
      (held : ((withIdentity e d i).bytes? (e.configPath config)).isSome) :
      InitEnds (.ok ()) [e.certificatePath, e.keyPath] (withIdentity e d i)
  | configured {i} (room : HasRoom e d force) (minted : IsMinted e uri i)
      (certified : d.IsWritable e.certificatePath) (keyed : d.IsWritable e.keyPath)
      (absent : (withIdentity e d i).bytes? (e.configPath config) = none)
      (writable : d.IsWritable (e.configPath config)) :
      InitEnds (.ok ()) [e.certificatePath, e.keyPath, e.configPath config]
        ((withIdentity e d i).put (e.configPath config) (configBytes e uri))

theorem initEnds_of_runInit :
    ∃ changed, InitEnds e d config force uri ((runInit e config force uri).runOn lines d).1 changed
      ((runInit e config force uri).runOn lines d).2.2 := by
  unfold runInit
  obtain ⟨result, made, room⟩ := runOn_makeRoom e lines d force
  rw [Console.runOn_bind, made]
  cases result with
  | error fault => exact ⟨_, .barred fun free => nomatch room.mpr free⟩
  | ok _ =>
    replace room := room.mp rfl
    dsimp only
    rw [Console.runOn_bind, Console.runOn_ofExcept]
    cases minted : Identity.mint "uastack" e.hostName (e.initialUri uri) e.draw with
    | error fault => exact ⟨_, .unminted room fun i made => nomatch minted.symm.trans made⟩
    | ok i =>
      dsimp only
      rw [Console.runOn_bind, runOn_saveIdentity]
      obtain ⟨certified, keyed, saved⟩ | ⟨fault, after, saved, fails⟩ :=
        Identity.save_cases d i e.certificatePath e.keyPath <;> rw [saved]
      · dsimp only
        rw [Console.runOn_bind, Console.runOn_print]
        dsimp only
        rw [Console.runOn_bind, Console.runOn_print]
        obtain ⟨result, printed, after, written, ends⟩ := runOn_writeConfig _
          (withIdentity e d i) (e.configPath config) (initialConfig e (e.initialUri uri))
        dsimp only
        rw [← withIdentity, written]
        obtain ⟨held, rfl, rfl⟩ | ⟨absent, writable, rfl, rfl⟩ | ⟨absent, ⟨fault, rfl⟩, fails⟩ :=
          ends
        · exact ⟨_, .kept room minted certified keyed held⟩
        · exact ⟨_, .configured room minted certified keyed absent writable⟩
        · exact ⟨_, .unconfigured room minted certified keyed absent fails⟩
      · obtain fails | ⟨certified, fails⟩ := fails
        · exact ⟨_, .uncertified room minted fails⟩
        · exact ⟨_, .keyless room minted certified fails⟩

variable {e d config force uri} {jsonLogs : Bool} {lines} {after : Disk}

theorem initEnds_of_run {result : Except String (List Listener)}
    (done : Offline.run e ⟨config, jsonLogs, .init force uri⟩ d = (lines, result, after)) :
    ∃ ended changed, result = ended.map (fun _ => []) ∧
      InitEnds e d config force uri ended changed after := by
  have started : (run e ⟨config, jsonLogs, .init force uri⟩ : Console (StateM Disk) _) =
      (runInit e config force uri >>= fun _ => pure []) := rfl
  have ends := initEnds_of_runInit e [] d config force uri
  rw [Offline.run_eq, started, Console.runOn_bind] at done
  revert ends done
  rcases (runInit e config force uri).runOn [] d with ⟨_ | _, printed, final⟩ <;>
  · rintro ⟨⟩ ⟨changed, ends⟩
    exact ⟨_, changed, rfl, ends⟩

/-! ### What is spared -/

theorem certificatePath_ne_keyPath (e : Environment) : e.certificatePath ≠ e.keyPath :=
  fun same => absurd ((String.append_right_inj _).mp same) (by decide)

variable {path : String} {i : Identity}

theorem bytes?_withIdentity (certificate : path ≠ e.certificatePath) (key : path ≠ e.keyPath) :
    (withIdentity e d i).bytes? path = d.bytes? path := by
  rw [withIdentity, Disk.bytes?_put_of_ne key, Disk.bytes?_put_of_ne certificate]

theorem bytes?_withIdentity_certificatePath :
    (withIdentity e d i).bytes? e.certificatePath = some i.certificate.der := by
  rw [withIdentity, Disk.bytes?_put_of_ne (certificatePath_ne_keyPath e), Disk.bytes?_put]

theorem bytes?_withIdentity_keyPath :
    (withIdentity e d i).bytes? e.keyPath = some i.privateKey.der :=
  Disk.bytes?_put

/-- What is not there after an identity has been written was not there before. -/
theorem absent_of_withIdentity (absent : (withIdentity e d i).bytes? path = none) :
    d.bytes? path = none := by
  have certificate : path ≠ e.certificatePath := by
    rintro rfl
    cases bytes?_withIdentity_certificatePath.symm.trans absent
  have key : path ≠ e.keyPath := by
    rintro rfl
    cases bytes?_withIdentity_keyPath.symm.trans absent
  rw [← bytes?_withIdentity certificate key, absent]

/-- A file that is there is not one of the identity that there is room for. -/
theorem apart_of_hasRoom (room : HasRoom e d false) (held : (d.bytes? path).isSome)
    (beside : path = e.keyPath → (d.bytes? e.certificatePath).isSome) :
    path ≠ e.certificatePath ∧ path ≠ e.keyPath := by
  have free : ¬ (d.bytes? e.certificatePath).isSome := by
    rw [room.2 rfl]
    exact Bool.false_ne_true
  constructor
  · rintro rfl
    exact free held
  · exact fun same => free (beside same)

namespace InitEnds

variable {result : Except String Unit} {changed : List String}

theorem bytes?_of_not_mem (ends : InitEnds e d config force uri result changed after)
    (other : path ∉ changed) : after.bytes? path = d.bytes? path := by
  cases ends with
  | barred | unminted => rfl
  | uncertified room minted fails => exact fails.bytes?_of_not_mem other
  | keyless room minted certified fails =>
    obtain ⟨certificate, begun⟩ := List.ne_and_not_mem_of_not_mem_cons other
    rw [fails.bytes?_of_not_mem begun, Disk.bytes?_put_of_ne certificate]
  | unconfigured room minted certified keyed absent fails =>
    obtain ⟨certificate, others⟩ := List.ne_and_not_mem_of_not_mem_cons other
    obtain ⟨key, begun⟩ := List.ne_and_not_mem_of_not_mem_cons others
    rw [fails.bytes?_of_not_mem begun, bytes?_withIdentity certificate key]
  | kept =>
    obtain ⟨certificate, others⟩ := List.ne_and_not_mem_of_not_mem_cons other
    exact bytes?_withIdentity certificate (List.ne_of_not_mem_cons others)
  | configured =>
    obtain ⟨certificate, others⟩ := List.ne_and_not_mem_of_not_mem_cons other
    obtain ⟨key, others⟩ := List.ne_and_not_mem_of_not_mem_cons others
    rw [Disk.bytes?_put_of_ne (List.ne_of_not_mem_cons others), bytes?_withIdentity certificate key]

/-- Nothing is changed without room for an identity, and no configuration that was there. -/
theorem of_mem_changed (ends : InitEnds e d config force uri result changed after)
    (member : path ∈ changed) :
    HasRoom e d force ∧ (path = e.certificatePath ∨ path = e.keyPath ∨ d.bytes? path = none) := by
  cases ends with
  | barred | unminted => cases member
  | uncertified room minted fails => exact ⟨room, .inl (Disk.eq_of_mem_begun member)⟩
  | keyless room minted certified fails =>
    rw [List.mem_cons] at member
    exact ⟨room, member.imp_right fun begun => .inl (Disk.eq_of_mem_begun begun)⟩
  | unconfigured room minted certified keyed absent fails =>
    rw [List.mem_cons, List.mem_cons] at member
    refine ⟨room, member.imp_right fun later => later.imp_right fun begun => ?_⟩
    rw [Disk.eq_of_mem_begun begun]
    exact absent_of_withIdentity absent
  | kept room =>
    rw [List.mem_cons, List.mem_singleton] at member
    exact ⟨room, member.imp_right .inl⟩
  | configured room minted certified keyed absent =>
    rw [List.mem_cons, List.mem_cons, List.mem_singleton] at member
    refine ⟨room, member.imp_right fun later => later.imp_right ?_⟩
    rintro rfl
    exact absent_of_withIdentity absent

theorem spared (ends : InitEnds e d config false uri result changed after)
    (held : (d.bytes? path).isSome)
    (beside : path = e.keyPath → (d.bytes? e.certificatePath).isSome) :
    after.bytes? path = d.bytes? path := by
  refine ends.bytes?_of_not_mem fun member => ?_
  obtain ⟨room, certificate | key | absent⟩ := ends.of_mem_changed member
  · exact (apart_of_hasRoom room held beside).1 certificate
  · exact (apart_of_hasRoom room held beside).2 key
  · rw [absent] at held
    cases held

/-- What stands before the first write: no room, no identity, or a certificate that is refused. -/
theorem eq_of_unwritten (ends : InitEnds e d config force uri result changed after)
    (unwritten : ¬ HasRoom e d force ∨ (∀ i, ¬ IsMinted e uri i) ∨
      (d.refusal e.certificatePath).isSome) :
    (∃ fault, result = .error fault) ∧ after = d := by
  have stopped {i : Identity} (room : HasRoom e d force) (minted : IsMinted e uri i) :
      (d.refusal e.certificatePath).isSome :=
    (unwritten.resolve_left (not_not_intro room)).resolve_left fun none => none i minted
  have blocked {i : Identity} (room : HasRoom e d force) (minted : IsMinted e uri i)
      (certified : d.IsWritable e.certificatePath) : False := by
    have refused := stopped room minted
    rw [certified.1] at refused
    cases refused
  cases ends with
  | barred | unminted => exact ⟨⟨_, rfl⟩, rfl⟩
  | uncertified room minted fails =>
    cases fails with
    | refused => exact ⟨⟨_, rfl⟩, rfl⟩
    | interrupted begun =>
      have refused := stopped room minted
      rw [begun] at refused
      cases refused
  | keyless room minted certified
  | unconfigured room minted certified
  | kept room minted certified
  | configured room minted certified => exact (blocked room minted certified).elim

end InitEnds

/-- Without force, files that are there stay as they are, a key without a certificate apart. With
force or without, init changes the files that belong to how it ends and no others: where a write
fails, those before it and the one that it has begun. What fails before the first write leaves
everything as it was. -/
theorem spared_by_init (e : Environment) (config : Option String) (jsonLogs force : Bool)
    (uri : Option String) (d : Disk) :
    let (_, result, after) := Offline.run e ⟨config, jsonLogs, .init force uri⟩ d
    (force = false → ∀ path, (d.bytes? path).isSome →
      (path = e.keyPath → (d.bytes? e.certificatePath).isSome) →
      after.bytes? path = d.bytes? path) ∧
    (∃ ended changed, result = ended.map (fun _ => []) ∧
      InitEnds e d config force uri ended changed after ∧
      ∀ path, path ∉ changed → after.bytes? path = d.bytes? path) ∧
    (¬ HasRoom e d force ∨ (∀ i, ¬ IsMinted e uri i) ∨ (d.refusal e.certificatePath).isSome →
      (∃ fault, result = .error fault) ∧ after = d) := by
  rcases done : Offline.run e ⟨config, jsonLogs, .init force uri⟩ d with ⟨lines, result, after⟩
  obtain ⟨ended, changed, rfl, ends⟩ := initEnds_of_run done
  refine ⟨?_, ⟨ended, changed, rfl, ends, fun _ => ends.bytes?_of_not_mem⟩, fun unwritten => ?_⟩
  · rintro rfl path held beside
    exact ends.spared held beside
  · obtain ⟨⟨fault, rfl⟩, same⟩ := ends.eq_of_unwritten unwritten
    exact ⟨⟨fault, rfl⟩, same⟩

end Command

/-! ### A configuration that cannot be written -/

theorem Identity.mint_of_parts {subject host uri : String} {draw : X509.Draw} {i : Identity}
    (hostNamed : asciiName host = .ok ()) (uriNamed : asciiName uri = .ok ())
    (decoded : Certificate.decode (X509.selfSigned subject host uri draw) = .ok i.certificate)
    (keyed : PrivateKey.ofDer (Key.pkcs8 draw.key) = .ok i.privateKey) :
    Identity.mint subject host uri draw = .ok i := by
  unfold Identity.mint
  rw [hostNamed, uriNamed, decoded, keyed]
  show (Identity.of i.certificate i.privateKey).mapError Fault.message = _
  rw [i.of_parts]
  rfl

namespace Command

namespace Plant

def environment : Environment where
  now := .mk 1700000000 0
  homeDirectory := "/home/plant"
  hostName := "plant"
  draw := ⟨0, 0⟩
  freshUri := "urn:plant:1"
  freshId := "1"

/-- The certificate that is made there. -/
def certificateDer : List UInt8 :=
  X509.selfSigned "uastack" "plant" "urn:plant:uastack" ⟨0, 0⟩

def content : X509.Content where
  subject := [[⟨[0x55, 4, 3], ⟨0x0C, "uastack".toUTF8.toList⟩⟩]]
  notBefore := .mk 157766400 0
  notAfter := .mk 67090118400 0
  publicKey := ⟨X509.ecPublicKey, Key.Curve.p256.publicPoint 1⟩

theorem certificate?_certificateDer : X509.certificate? certificateDer = some (content, []) ∧
    certificateDer.length ≤ Certificate.sizeLimit := by
  decide +kernel

def identity : Identity where
  certificate := ⟨certificateDer, content, certificate?_certificateDer.1⟩
  privateKey := ServerContext.Plant.identity.privateKey
  key_matches := rfl

theorem mint_environment :
    Identity.mint "uastack" "plant" "urn:plant:uastack" ⟨0, 0⟩ = .ok identity :=
  Identity.mint_of_parts rfl rfl
    (identity.certificate.decode_der certificate?_certificateDer.2) identity.privateKey.ofDer_der

/-- An empty disk without the directory of the configuration. -/
def disk : Disk where
  refusal path :=
    if path = "/nowhere/config.toml" then some "No such file or directory (os error 2)" else none

end Plant

/-- A fault leaves a certificate and a key behind if the configuration cannot be written. -/
theorem not_spared_unwritable :
    ¬ ∀ (e : Environment) (config : Option String) (jsonLogs force : Bool) (uri : Option String)
      (d : Disk),
      let (_, result, after) := Offline.run e ⟨config, jsonLogs, .init force uri⟩ d
      (force = false → ∀ path ∈ [e.certificatePath, e.keyPath, e.configPath config],
        (d.bytes? path).isSome → after.bytes? path = d.bytes? path) ∧
      ∀ fault, result = .error fault →
        ∀ path ∈ [e.certificatePath, e.keyPath, e.configPath config],
          after.bytes? path = d.bytes? path := by
  intro spared
  have undone := spared Plant.environment (some "/nowhere/config.toml") false false none Plant.disk
  have minted : IsMinted Plant.environment none Plant.identity := by
    have uri : Plant.environment.initialUri none = "urn:plant:uastack" := by decide
    rw [IsMinted, uri]
    exact Plant.mint_environment
  rcases done : Offline.run _ _ _ with ⟨lines, result, after⟩
  rw [done] at undone
  obtain ⟨ended, changed, rfl, ends⟩ := initEnds_of_run done
  cases ends with
  | barred full => exact full ⟨by decide +kernel, fun _ => rfl⟩
  | unminted room failed => exact failed _ minted
  | uncertified room minted fails =>
    cases fails with
    | refused stops => exact absurd stops (by decide +kernel)
    | interrupted begun stops => cases stops
  | keyless room minted certified fails =>
    cases fails with
    | refused stops =>
      rw [Disk.refusal_put] at stops
      exact absurd stops (by decide +kernel)
    | interrupted begun stops => cases stops
  | kept room minted certified keyed held =>
    rw [bytes?_withIdentity (by decide +kernel) (by decide +kernel)] at held
    cases held
  | configured room minted certified keyed absent writable =>
    have free : Plant.disk.refusal "/nowhere/config.toml" = none := writable.1
    exact absurd free (by decide)
  | unconfigured room minted certified keyed absent fails =>
    have kept := undone.2 _ rfl Plant.environment.certificatePath List.mem_cons_self
    rw [fails.bytes?_of_ne (by decide +kernel), bytes?_withIdentity_certificatePath] at kept
    cases kept

end Command

end OpcUa
