import ShaderPair.Proofs.DurationText
import ShaderPair.Progress
import ShaderPair.Settings.Layers

/-! A timeout of the command line. It reaches the settings as text and is read from there, and since the
text of a duration is read back it is the limit on the compiler's runs. What the settings file and the
variables say of the timeout is not looked at. -/

namespace ShaderPair

namespace Settings

theorem limit_of_read {settings : Settings} {duration : Duration}
    (read : Duration.read settings.timeout = .ok duration) : settings.limit = .ok duration := by
  rw [limit, read]

theorem findFile_ne_wrongType (host : Host) (asked : Option Text) (found : Value) (key : Key) (origin : Origin) :
    findFile host asked ≠ .error (.wrongType found key origin) := by
  intro blamed
  unfold findFile at blamed
  repeat' split at blamed
  all_goals cases blamed

theorem readFile_ne_wrongType (host : Host) (asked : Option Text) (formats : Formats) (found : Value) (key : Key)
    (origin : Origin) : readFile host asked formats ≠ .error (.wrongType found key origin) := by
  intro blamed
  unfold readFile at blamed
  split at blamed
  · next failed =>
    cases blamed
    exact findFile_ne_wrongType host asked found key origin failed
  · cases blamed
  · repeat' split at blamed
    all_goals cases blamed

theorem key_of_layered {given : Option Text} {below : Option Sourced} {key blamed : Key} {found : Value}
    {origin : Origin} (refused : layered given below key = .error (.wrongType found blamed origin)) : blamed = key := by
  unfold layered textOf at refused
  repeat' split at refused
  all_goals cases refused
  rfl

theorem load_of_timeout {options : CommandLine.Options} {duration : Duration} (host : Host)
    (environment : List (Text × Text)) (formats : Formats) (given : options.timeout = some duration) :
    load host environment options formats = (readFile host options.settings formats >>= fun file =>
      layered options.compiler (sourced? file (formats.environment environment) .compiler) .compiler >>=
        fun compiler => .ok ⟨compiler, duration.text⟩) := by
  rw [load, given]
  rfl

/-- A timeout of the command line is the limit, and the timeouts below it are neither taken nor blamed,
whatever the formats of the settings file and of the variables are. -/
theorem limit_of_given_timeout {formats : Formats} {host : Host} {environment : List (Text × Text)}
    {options : CommandLine.Options} {duration : Duration} (given : options.timeout = some duration) :
    (∀ settings, load host environment options formats = .ok settings → settings.limit = .ok duration) ∧
      ∀ found origin, load host environment options formats ≠ .error (.wrongType found .timeout origin) := by
  rw [load_of_timeout host environment formats given]
  constructor
  · intro settings loaded
    obtain ⟨file, _, loaded⟩ := bind_eq_ok_iff.mp loaded
    obtain ⟨compiler, _, loaded⟩ := bind_eq_ok_iff.mp loaded
    cases loaded
    exact limit_of_read duration.read_text
  · intro found origin blamed
    obtain failed | ⟨file, _, blamed⟩ := bind_eq_error_iff.mp blamed
    · exact readFile_ne_wrongType _ _ _ _ _ _ failed
    · obtain failed | ⟨compiler, _, blamed⟩ := bind_eq_error_iff.mp blamed
      · cases key_of_layered failed
      · cases blamed

/-- A settings file and a variable whose timeouts are not even texts. -/
def numericHost : Host where
  tree := Tree.empty.put ["cg2glsl.toml"] (.file ⟨Text.toUtf8 "timeout = 10", .document⟩)
  working := []
  programFolder := none

def longest : Duration := ⟨18446744073709551615, ⟨999999999, by decide⟩⟩

def longestTimeout : CommandLine.Options := ⟨none, none, none, some longest, none, .warn⟩

theorem limit_of_given_timeout_longest :
    load numericHost [("CG2GLSL_TIMEOUT", "20")] longestTimeout =
        .ok ⟨none, "584542046090years 7months 15days 17h 5m 3s 999ms 999us 999ns"⟩ ∧
      limit ⟨none, "584542046090years 7months 15days 17h 5m 3s 999ms 999us 999ns"⟩ =
        .ok longest := by
  have loaded : load numericHost [("CG2GLSL_TIMEOUT", "20")] longestTimeout =
      .ok ⟨none, "584542046090years 7months 15days 17h 5m 3s 999ms 999us 999ns"⟩ := by rfl
  exact ⟨loaded, (limit_of_given_timeout rfl).1 _ loaded⟩

end Settings

end ShaderPair
