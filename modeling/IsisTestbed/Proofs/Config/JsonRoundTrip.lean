import IsisTestbed.Config.Documents
import IsisTestbed.Proofs.Config.ReadBack
import IsisTestbed.Proofs.Json.RoundTrip

/-!
Configurations as JSON text, read back. Together with the reading of JSON text, the codec of
configurations reads every one without shares of the line rate from its own text.
-/

namespace IsisTestbed.Config

/-- The JSON text of a configuration is read as the document that spells what is written for it. -/
theorem parse?_toJson {c : Config}
    (h : ∀ f ∈ c.flows, ∀ share, f.rate ≠ some (.percentage share)) :
    Json.parse? c.toJson = some ((codec.write c).tree Json.spelling) := by
  have back : codec.ReadsBack Json.spelling 9 c := codec_readsBack h
  exact Json.parse?_render back.plain (by decide) true

theorem read_toJson {c : Config}
    (h : ∀ f ∈ c.flows, ∀ share, f.rate ≠ some (.percentage share)) : ofJson c.toJson = .ok c := by
  have back : codec.ReadsBack Json.spelling 9 c := codec_readsBack h
  simp [ofJson, parse?_toJson h, back.read]

/-- The same for JSON text that is printed as a line of its own. -/
theorem read_toJson_line {c : Config}
    (h : ∀ f ∈ c.flows, ∀ share, f.rate ≠ some (.percentage share)) :
    ofJson (c.toJson ++ "\n") = .ok c := by
  have back : codec.ReadsBack Json.spelling 9 c := codec_readsBack h
  have line : c.toJson ++ "\n" = String.ofList (Json.render true 0 (codec.write c) ++ ['\n']) := by
    rw [String.ofList_append]
    rfl
  have blank : ∀ c ∈ ['\n'], Json.isBlank c = true := by simp [Json.isBlank]
  have parsed : Json.parse? (c.toJson ++ "\n") = some ((codec.write c).tree Json.spelling) := by
    rw [line]
    exact Json.parse?_render_append back.plain (by decide) true blank
  simp [ofJson, parsed, back.read]

/-- A configuration without flows at a share of the line rate is read back from its JSON text,
whatever characters its texts hold and whichever of its parts are absent or empty. -/
theorem ofJson_toJson {c : Config}
    (h : ∀ f ∈ c.flows, ∀ share, f.rate ≠ some (.percentage share)) :
    ofJson c.toJson = .ok c := by
  simp [ofJson, parse?_toJson h, (codec_readsBack h).read]

/-- Quotes, backslashes, control characters and the greatest number of packets survive. -/
theorem ofJson_toJson_escapes :
    let c : Config :=
      { ports := [⟨"\"\\\x00\n", some ""⟩, ⟨"😀", none⟩]
        flows := [{
          name := ""
          endpoints := .ports "\"" []
          packet := [⟨.ipv6, some .auto, none⟩]
          rate := some (.packetsPerSecond 18446744073709551615) }] }
    ofJson c.toJson = .ok c :=
  ofJson_toJson (by simp)

end IsisTestbed.Config
