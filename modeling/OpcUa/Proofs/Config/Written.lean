import OpcUa.Proofs.Command.Init
import OpcUa.Proofs.Config.Text

/-!
# Configurations that init writes

The configuration that init writes is loaded again as it was, and names the files of the identity
that has been written before it.
-/

namespace OpcUa.Command

variable {e : Environment} {d after : Disk} {config : Option String} {force : Bool}
  {uri : Option String} {result : Except String Unit} {changed : List String}

/-- What init leaves when it succeeds and has no configuration to keep. -/
theorem InitEnds.exists_written (ends : InitEnds e d config force uri (.ok ()) changed after)
    (absent : d.bytes? (e.configPath config) = none)
    (apart : e.configPath config ≠ e.certificatePath ∧ e.configPath config ≠ e.keyPath) :
    ∃ i, IsMinted e uri i ∧ after.bytes? e.certificatePath = some i.certificate.der ∧
      after.bytes? e.keyPath = some i.privateKey.der ∧
      after.bytes? (e.configPath config) = some (configBytes e uri) := by
  cases ends with
  | @kept i room minted certified keyed held =>
    rw [bytes?_withIdentity apart.1 apart.2, absent] at held
    cases held
  | @configured i room minted certified keyed free writable =>
    refine ⟨i, minted, ?_, ?_, Disk.bytes?_put⟩
    · rw [Disk.bytes?_put_of_ne apart.1.symm, bytes?_withIdentity_certificatePath]
    · rw [Disk.bytes?_put_of_ne apart.2.symm, bytes?_withIdentity_keyPath]

/-- Nothing else is in the way of init where all files can be written. -/
theorem InitEnds.eq_ok (ends : InitEnds e d config force uri result changed after)
    (room : HasRoom e d force) {i : Identity} (minted : IsMinted e uri i)
    (writable : ∀ path, d.IsWritable path) : result = .ok () := by
  cases ends with
  | barred full => exact absurd room full
  | unminted room failed => exact absurd minted (failed i)
  | uncertified room minted fails => exact absurd fails (writable _).not_fails
  | @keyless fault j after room minted certified fails =>
    have still : (d.put e.certificatePath j.certificate.der).IsWritable e.keyPath := writable _
    exact absurd fails still.not_fails
  | @unconfigured fault j after room minted certified keyed absent fails =>
    have still : (withIdentity e d j).IsWritable (e.configPath config) := writable _
    exact absurd fails still.not_fails
  | kept | configured => rfl

theorem hasFlagSet_initialConfig (e : Environment) (uri : String) :
    (initialConfig e uri).tcp.HasFlagSet ∧ (initialConfig e uri).https.HasFlagSet :=
  ⟨List.nil_sublist _, List.nil_sublist _⟩

theorem Plant.isMinted_identity : IsMinted environment none identity := by
  have uri : environment.initialUri none = "urn:plant:uastack" := by decide
  rw [IsMinted, uri]
  exact mint_environment

/-- Every configuration is loaded from a file of its text as it was. So when init has written one,
that is loaded again, and it names the files that hold the new identity; and init succeeds where an
identity can be made and all files can be written. -/
theorem configurations_read_back :
    (∀ (c : ApplicationConfig) (read : FileReader) (path : String),
      c.tcp.HasFlagSet → c.https.HasFlagSet → read path = .ok c.toText.toUTF8.toList →
        ApplicationConfig.load read path = c) ∧
    ∀ (e : Environment) (config : Option String) (jsonLogs force : Bool) (uri : Option String)
      (d : Disk),
      let (_, result, after) := Offline.run e ⟨config, jsonLogs, .init force uri⟩ d
      let path := e.configPath config
      (HasRoom e d force → (∃ i, IsMinted e uri i) → (∀ file, d.IsWritable file) →
        result = .ok []) ∧
      (result = .ok [] → d.bytes? path = none → path ≠ e.certificatePath ∧ path ≠ e.keyPath →
        ApplicationConfig.load after.read path = initialConfig e (e.initialUri uri) ∧
        (initialConfig e (e.initialUri uri)).identity = some ⟨e.certificatePath, e.keyPath⟩ ∧
        ∃ i, IsMinted e uri i ∧ after.bytes? e.certificatePath = some i.certificate.der ∧
          after.bytes? e.keyPath = some i.privateKey.der) := by
  refine ⟨fun c read path tcp https held => ApplicationConfig.load_toText tcp https held, ?_⟩
  intro e config jsonLogs force uri d
  rcases done : Offline.run e ⟨config, jsonLogs, .init force uri⟩ d with ⟨lines, result, after⟩
  obtain ⟨ended, changed, rfl, ends⟩ := initEnds_of_run done
  constructor
  · intro room ⟨i, minted⟩ writable
    rw [ends.eq_ok room minted writable]
    rfl
  · intro succeeded absent apart
    cases ended with
    | error fault => cases succeeded
    | ok =>
      obtain ⟨i, minted, certificate, key, held⟩ := ends.exists_written absent apart
      obtain ⟨tcp, https⟩ := hasFlagSet_initialConfig e (e.initialUri uri)
      have loaded := ApplicationConfig.load_toText tcp https (Disk.read_eq_ok held)
      exact ⟨loaded, rfl, i, minted, certificate, key⟩

/-- On an empty disk, init names the files in the directory of the application. -/
theorem Plant.configuration_read_back :
    (ApplicationConfig.load
      (Offline.run Plant.environment ⟨none, false, .init false none⟩ {}).2.2.read
      "/home/plant/.uastack/config.toml").identity =
        some ⟨"/home/plant/.uastack/cert.der", "/home/plant/.uastack/key.der"⟩ := by
  have read_back := configurations_read_back.2 Plant.environment none false false none {}
  revert read_back
  rcases Offline.run Plant.environment ⟨none, false, .init false none⟩ {} with
    ⟨lines, result, after⟩
  rintro ⟨succeeds, written⟩
  have ended := succeeds ⟨rfl, fun _ => rfl⟩ ⟨_, isMinted_identity⟩ fun _ => ⟨rfl, rfl⟩
  obtain ⟨loaded, named, -⟩ := written ended rfl (by decide +kernel)
  have paths : Plant.environment.configPath none = "/home/plant/.uastack/config.toml" ∧
      Plant.environment.certificatePath = "/home/plant/.uastack/cert.der" ∧
      Plant.environment.keyPath = "/home/plant/.uastack/key.der" := by decide +kernel
  rw [paths.1] at loaded
  rw [paths.2.1, paths.2.2] at named
  exact (congrArg ApplicationConfig.identity loaded).trans named

end OpcUa.Command
