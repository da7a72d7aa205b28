import IsisTestbed.Config.Documents
import IsisTestbed.Proofs.Config.JsonRoundTrip
import IsisTestbed.Proofs.Yaml.RoundTrip

/-!
Configurations as YAML text, read back. The codec of configurations looks at every part that it
writes, so the reading of YAML text gives back each configuration without shares of the line rate,
and the same one as its JSON text does.
-/

namespace IsisTestbed.Config

/-- The YAML text of a configuration is read as the document that spells what is written for it. -/
theorem parse?_toYaml {c : Config}
    (h : ∀ f ∈ c.flows, ∀ share, f.rate ≠ some (.percentage share)) :
    Yaml.parse? codec.outline c.toYaml = some ((codec.write c).tree Yaml.spelling) := by
  have back : codec.ReadsBack Yaml.spelling 9 c := codec_readsBack h
  obtain ⟨fields, written⟩ : ∃ fields, codec.write c = .record fields := ⟨_, rfl⟩
  have plain := back.plain
  have covered := back.covered
  rw [written] at plain covered
  rw [toYaml, written]
  exact Yaml.parse?_render plain (by decide) covered

theorem read_toYaml {c : Config}
    (h : ∀ f ∈ c.flows, ∀ share, f.rate ≠ some (.percentage share)) : ofYaml c.toYaml = .ok c := by
  have back : codec.ReadsBack Yaml.spelling 9 c := codec_readsBack h
  simp [ofYaml, parse?_toYaml h, back.read]

/-- A configuration without flows at a share of the line rate is read back from its YAML text, in
whichever of the forms its texts are written there, and so agrees with what its JSON text is read
as. -/
theorem ofYaml_toYaml {c : Config}
    (h : ∀ f ∈ c.flows, ∀ share, f.rate ≠ some (.percentage share)) :
    ofYaml c.toYaml = .ok c ∧ ofYaml c.toYaml = ofJson c.toJson :=
  ⟨read_toYaml h, (read_toYaml h).trans (read_toJson h).symm⟩

/-- Names that look like values or marks, blanks, line ends and control characters survive. -/
theorem ofYaml_toYaml_forms :
    let c : Config :=
      { ports := [⟨"0x1F", some "null"⟩, ⟨"- a: b #", some ""⟩, ⟨" two\n\n lines \u2028", some "\x00\t"⟩]
        flows := [{
          name := "line\n"
          endpoints := .ports "~" ["'", "\"", "😀\u0085"]
          packet := [⟨.ipv6, some .auto, none⟩]
          rate := some (.packetsPerSecond 18446744073709551615) }] }
    ofYaml c.toYaml = .ok c ∧ ofYaml c.toYaml = ofJson c.toJson :=
  ofYaml_toYaml (by simp)

end IsisTestbed.Config
