import IsisTestbed.Proofs.Config.JsonRoundTrip
import IsisTestbed.Proofs.Data.Rearranging
import IsisTestbed.Telemetry.Metrics

/-!
The order of fields in documents. All objects in the documents of configurations and metrics are read
by the names of their members, and the names of the fields of one object are all different. So members
may come in any order, and members that are no fields may be added, at any depth.
-/

namespace IsisTestbed

/-! ### Regular readers -/

mutual

/-- Whether a codec, and each one that it leads to, reads scalars, sequences, records whose fields have
different names, or choices between variants with such fields. -/
inductive Codec.IsRegular : {α : Type} → Codec α → Prop where
  | scalar {α : Type} {c : Codec α} (flat : c.outline = .scalar) : c.IsRegular
  | list {α : Type} {c : Codec α} (items : c.IsRegular) : c.list.IsRegular
  | record {α β : Type} {layout : Layout β} {view : α → β} {make : β → α}
      (distinct : (fieldNames layout.fields).Nodup) (fields : layout.IsRegular) :
      (Codec.record layout view make).IsRegular
  | choice {α : Type} {variants : List (Variant α)} (each : ∀ v ∈ variants, v.IsRegular) :
      (Codec.choice variants).IsRegular

/-- Whether the fields of a layout are read by regular codecs. -/
inductive Layout.IsRegular : {β : Type} → Layout β → Prop where
  | nil : Layout.nil.IsRegular
  | required {α β : Type} {name : String} {c : Codec α} {rest : Layout β} (value : c.IsRegular)
      (more : rest.IsRegular) : (Layout.required name c rest).IsRegular
  | optional {α β : Type} {name : String} {c : Codec α} {rest : Layout β} (value : c.IsRegular)
      (more : rest.IsRegular) : (Layout.optional name c rest).IsRegular
  | defaulted {α β : Type} {name : String} {aliases : List String} {c : Codec α} {default : α}
      {rest : Layout β} (value : c.IsRegular) (more : rest.IsRegular) :
      (Layout.defaulted name aliases c default rest).IsRegular
  | listed {α β : Type} {name : String} {c : Codec α} {rest : Layout β} (items : c.IsRegular)
      (more : rest.IsRegular) : (Layout.listed name c rest).IsRegular

/-- Whether a variant has fields with different names that are read by regular codecs, or none. -/
inductive Variant.IsRegular : {α : Type} → Variant α → Prop where
  | ofFields {α β : Type} {name : String} {layout : Layout β} {view : α → Option β} {make : β → α}
      (distinct : ("choice" :: fieldNames layout.fields).Nodup) (fields : layout.IsRegular) :
      (Variant.ofFields name layout view make).IsRegular
  | bare {α : Type} [BEq α] {name : String} {x : α} : (Variant.bare name x).IsRegular

end

theorem Variant.IsRegular.exists_accepts {α : Type} {v : Variant α} (h : v.IsRegular) :
    ∃ names, v.Accepts names := by
  cases h with
  | ofFields distinct fields => exact ⟨_, .ofFields _ _ _ _⟩
  | bare => exact ⟨_, .bare _ _⟩

/-- If a regular codec looks into records at all, it reads them by the names of their members. -/
theorem Codec.IsRegular.readsObjects {α : Type} {c : Codec α} (h : c.IsRegular)
    (looks : c.outline.keys?.isSome = true) : c.ReadsObjects := by
  cases h with
  | scalar flat =>
    rw [flat] at looks
    cases looks
  | list items => cases looks
  | record distinct fields => exact .record _ _ _
  | choice each => exact .choice fun v member => (each v member).exists_accepts

/-- A tag that is a text selects the variant of that name. -/
theorem Codec.Selects.find? {α : Type} {variants : List (Variant α)} {name : String}
    {v : Variant α} (h : Selects variants (.typed (.text name)) v) :
    variants.find? (fun v => v.name == name) = some v := by
  rcases h with found | ⟨held, keeps, found⟩
  · exact found
  · cases keeps
    exact found

/-! ### Configurations -/

theorem Port.codec_isRegular : Port.codec.IsRegular :=
  .record (by decide) <| .required (.scalar rfl) <| .optional (.scalar rfl) .nil

theorem Connection.codec_isRegular : Connection.codec.IsRegular := by
  have remote : Connection.remoteCodec.IsRegular :=
    .record (by decide) <| .required (.scalar rfl) .nil
  refine .choice <| List.forall_mem_cons.mpr ⟨?port, List.forall_mem_singleton.mpr ?link⟩
  case port => exact .ofFields (by decide) <| .required (.scalar rfl) .nil
  case link => exact .ofFields (by decide) <| .required remote .nil

theorem InterfaceAddress.codec_isRegular (length : UInt8) :
    (InterfaceAddress.codec length).IsRegular :=
  .record (show ["name", "address", "gateway", "prefix"].Nodup by decide) <|
    .required (.scalar rfl) <| .required (.scalar rfl) <| .required (.scalar rfl) <|
    .defaulted (.scalar rfl) .nil

theorem Ethernet.codec_isRegular : Ethernet.codec.IsRegular :=
  .record (by decide) <| .required (.scalar rfl) <| .required (.scalar rfl) <|
    .optional (.scalar rfl) <| .optional Connection.codec_isRegular <|
    .listed (InterfaceAddress.codec_isRegular 24) <|
    .listed (InterfaceAddress.codec_isRegular 64) .nil

theorem RouterBasics.codec_isRegular : RouterBasics.codec.IsRegular :=
  .record (by decide) <| .optional (.scalar rfl) <| .optional (.scalar rfl) <|
    .optional (.scalar rfl) <| .optional (.scalar rfl) .nil

theorem RouterAdvanced.codec_isRegular : RouterAdvanced.codec.IsRegular :=
  .record (by decide) <| .optional (.scalar rfl) <| .listed (.scalar rfl) <|
    .optional (.scalar rfl) <| .optional (.scalar rfl) <| .optional (.scalar rfl) .nil

theorem PriorityBandwidths.codec_isRegular : PriorityBandwidths.codec.IsRegular :=
  .record (by decide) <| .required (.scalar rfl) <| .required (.scalar rfl) <|
    .required (.scalar rfl) <| .required (.scalar rfl) <| .required (.scalar rfl) <|
    .required (.scalar rfl) <| .required (.scalar rfl) <| .required (.scalar rfl) .nil

theorem LinkState.codec_isRegular : LinkState.codec.IsRegular :=
  .record (by decide) <| .optional (.scalar rfl) <|
    .optional PriorityBandwidths.codec_isRegular .nil

theorem InterfaceAdvanced.codec_isRegular : InterfaceAdvanced.codec.IsRegular :=
  .record (by decide) <| .optional (.scalar rfl) <| .optional (.scalar rfl) <|
    .optional (.scalar rfl) .nil

theorem IsisInterface.codec_isRegular : IsisInterface.codec.IsRegular :=
  .record (by decide) <| .required (.scalar rfl) <| .required (.scalar rfl) <|
    .optional (.scalar rfl) <| .optional (.scalar rfl) <| .optional (.scalar rfl) <|
    .listed LinkState.codec_isRegular <| .optional InterfaceAdvanced.codec_isRegular .nil

theorem RouteRange.codec_isRegular : RouteRange.codec.IsRegular := by
  have address : RouteAddress.codec.IsRegular :=
    .record (by decide) <| .required (.scalar rfl) <| .optional (.scalar rfl) <|
      .optional (.scalar rfl) <| .optional (.scalar rfl) .nil
  exact .record (by decide) <| .required (.scalar rfl) <| .defaulted (.list address) <|
    .optional (.scalar rfl) <| .optional (.scalar rfl) .nil

theorem Router.codec_isRegular : Router.codec.IsRegular :=
  .record (by decide) <| .required (.scalar rfl) <| .required (.scalar rfl) <|
    .optional RouterBasics.codec_isRegular <| .optional RouterAdvanced.codec_isRegular <|
    .listed IsisInterface.codec_isRegular <| .listed RouteRange.codec_isRegular <|
    .listed RouteRange.codec_isRegular .nil

theorem Device.codec_isRegular : Device.codec.IsRegular :=
  .record (by decide) <| .required (.scalar rfl) <| .listed Ethernet.codec_isRegular <|
    .optional Router.codec_isRegular .nil

theorem Endpoints.codec_isRegular : Endpoints.codec.IsRegular := by
  have ports : Endpoints.portsCodec.IsRegular :=
    .record (by decide) <| .required (.scalar rfl) <| .defaulted (.list (.scalar rfl)) .nil
  have devices : Endpoints.devicesCodec.IsRegular :=
    .record (by decide) <| .required (.list (.scalar rfl)) <|
      .required (.list (.scalar rfl)) .nil
  refine .choice <| List.forall_mem_cons.mpr ⟨?ports, List.forall_mem_singleton.mpr ?devices⟩
  case ports => exact .ofFields (by decide) <| .required ports .nil
  case devices => exact .ofFields (by decide) <| .required devices .nil

theorem Pattern.codec_isRegular : Pattern.codec.IsRegular := by
  refine .choice <| List.forall_mem_cons.mpr ⟨.bare,
    List.forall_mem_cons.mpr ⟨?value, List.forall_mem_singleton.mpr ?values⟩⟩
  case value => exact .ofFields (by decide) <| .required (.scalar rfl) .nil
  case values => exact .ofFields (by decide) <| .required (.list (.scalar rfl)) .nil

theorem Header.codec_isRegular : Header.codec.IsRegular := by
  have fields : Header.fieldsCodec.IsRegular :=
    .record (by decide) <| .optional Pattern.codec_isRegular <|
      .optional Pattern.codec_isRegular .nil
  refine .choice <| List.forall_mem_cons.mpr ⟨?ethernet,
    List.forall_mem_cons.mpr ⟨?ipv4, List.forall_mem_singleton.mpr ?ipv6⟩⟩
  case ethernet => exact .ofFields (by decide) <| .required fields .nil
  case ipv4 => exact .ofFields (by decide) <| .required fields .nil
  case ipv6 => exact .ofFields (by decide) <| .required fields .nil

theorem Rate.codec_isRegular : Rate.codec.IsRegular := by
  refine .choice <| List.forall_mem_cons.mpr ⟨?pps, List.forall_mem_singleton.mpr ?share⟩
  case pps => exact .ofFields (by decide) <| .required (.scalar rfl) .nil
  case share => exact .ofFields (by decide) <| .required (.scalar rfl) .nil

theorem FixedPackets.codec_isRegular : FixedPackets.codec.IsRegular := by
  have fields : FixedPackets.fieldsCodec.IsRegular :=
    .record (by decide) <| .required (.scalar rfl) <| .optional (.scalar rfl) .nil
  refine .choice <| List.forall_mem_singleton.mpr ?fixed
  case fixed => exact .ofFields (by decide) <| .required fields .nil

theorem FlowMetrics.codec_isRegular : FlowMetrics.codec.IsRegular :=
  .record (by decide) <| .required (.scalar rfl) <| .optional (.scalar rfl) .nil

theorem Flow.codec_isRegular : Flow.codec.IsRegular :=
  .record (by decide) <| .required (.scalar rfl) <| .required Endpoints.codec_isRegular <|
    .listed Header.codec_isRegular <| .optional Rate.codec_isRegular <|
    .optional FixedPackets.codec_isRegular <| .optional FlowMetrics.codec_isRegular .nil

theorem Config.codec_isRegular : Config.codec.IsRegular :=
  .record (by decide) <| .listed Port.codec_isRegular <| .listed Device.codec_isRegular <|
    .listed Flow.codec_isRegular .nil

/-! ### Metrics -/

namespace Telemetry

theorem Metrics.codec_isRegular : Metrics.codec.IsRegular := by
  have flow : FlowMetric.codec.IsRegular :=
    .record (by decide) <| .required (.scalar rfl) <| .defaulted (.scalar rfl) <|
      .defaulted (.scalar rfl) .nil
  have isis : IsisMetric.codec.IsRegular :=
    .record (by decide) <| .required (.scalar rfl) <| .defaulted (.scalar rfl) <|
      .defaulted (.scalar rfl) <| .defaulted (.scalar rfl) <| .defaulted (.scalar rfl) .nil
  have lsp : LspState.codec.IsRegular :=
    .record (by decide) <| .required (.scalar rfl) <| .defaulted (.list (.scalar rfl)) .nil
  exact .record (by decide) <| .defaulted (.list flow) <| .defaulted (.list isis) <|
    .defaulted (.list lsp) .nil

end Telemetry

/-! ### Documents that say the same -/

open Relation in
/-- Reading is insensitive to the order of fields and to foreign fields. All objects in the documents
of configurations and metrics are read by regular readers; whatever is rearranged in a document at
any depth, the outcome is the same configuration or the same error, and the same metrics or none.
The values of foreign fields are documents themselves: left out are those with a string that denotes
no text, because half of a surrogate pair is escaped in it, and those that are nested too deeply. Such
a string is passed over where a plain object is read, and refused in an object with a choice, whose
members are set aside before the choice is known. -/
theorem rearranged_documents_read_alike {text text' : String} {t t' : Tree}
    (parsed : Json.parse? text = some t) (parsed' : Json.parse? text' = some t') :
    Config.codec.IsRegular ∧ Telemetry.Metrics.codec.IsRegular ∧
    (ReflTransGen Config.codec.Rearranges t t' →
      (∃ c, Config.ofJson text = .ok c ∧ Config.ofJson text' = .ok c) ∨
        (Config.ofJson text = .error .json ∧ Config.ofJson text' = .error .json)) ∧
    (ReflTransGen Telemetry.Metrics.codec.Rearranges t t' →
      Telemetry.Metrics.ofJson? text = Telemetry.Metrics.ofJson? text') := by
  refine ⟨Config.codec_isRegular, Telemetry.Metrics.codec_isRegular, fun steps => ?_,
    fun steps => ?_⟩
  · have same := Codec.read_of_rearranges steps
    rw [Config.ofJson, Config.ofJson, parsed, parsed', Option.bind_some, Option.bind_some, ← same]
    cases Config.codec.read t with
    | none => exact .inr ⟨rfl, rfl⟩
    | some c => exact .inl ⟨c, rfl, rfl⟩
  · rw [Telemetry.Metrics.ofJson?, Telemetry.Metrics.ofJson?, parsed, parsed', Option.bind_some,
      Option.bind_some, Codec.read_of_rearranges steps]

/-! ### A document in two orders -/

namespace Config

open Codec Relation

/-- A scalar that is spelled as a text. -/
def word (s : String) : Tree :=
  .typed (.text s)

/-- A header that takes its source from a pattern. -/
def headerDocument (pattern : Tree) : Tree :=
  .record [(word "choice", word "ipv4"), (word "ipv4", .record [(word "src", pattern)])]

/-- The same, with the tag behind the fields that it selects. -/
def turnedHeader (pattern : Tree) : Tree :=
  .record [(word "ipv4", .record [(word "src", pattern)]), (word "choice", word "ipv4")]

/-- The members of a flow in front of its headers. -/
def flowMembers : List (Tree × Tree) :=
  [(word "name", word "f"),
    (word "tx_rx", .record [(word "choice", word "port"),
      (word "port", .record [(word "tx_name", word "p"), (word "rx_names", .array [])])])]

/-- A flow with one header. -/
def flowDocument (header : Tree) : Tree :=
  .record (flowMembers ++ [(word "packet", .array [header])])

/-- The same, with the headers in front and a foreign member behind. -/
def turnedFlow (header : Tree) : Tree :=
  .record ((word "packet", .array [header]) :: flowMembers ++ [(word "color", word "red")])

/-- A configuration with one flow. -/
def flowsDocument (flow : Tree) : Tree :=
  .record [(word "flows", .array [flow])]

theorem pattern_rearranges :
    Pattern.codec.Rearranges (.record [(word "choice", word "auto")])
      (.record [(word "unit", .typed (.nat 1)), (word "choice", word "auto")]) := by
  have foreign : Pattern.codec.Foreign [(word "choice", word "auto")] "unit" := by
    refine .choice (by decide) fun v chooses => ?_
    obtain ⟨m, member, _, selects⟩ := chooses
    rw [List.mem_singleton.mp member] at selects
    have auto : .bare "auto" Pattern.auto = v := Option.some.inj selects.find?
    exact ⟨[], auto ▸ .bare _ _, List.not_mem_nil⟩
  exact @Rearranges.insert _ _ [] _ _ _ (Pattern.codec_isRegular.readsObjects rfl) foreign
    (.scalar (by simp))

theorem header_rearranges {pattern pattern' : Tree}
    (h : Pattern.codec.Rearranges pattern pattern') :
    ReflTransGen Header.codec.Rearranges (headerDocument pattern) (turnedHeader pattern') := by
  have object : Header.codec.ReadsObjects := Header.codec_isRegular.readsObjects rfl
  have inside : Header.fieldsCodec.Rearranges (.record [(word "src", pattern)])
      (.record [(word "src", pattern')]) :=
    @Rearranges.member _ _ _ _ [] [] _ _ _ (.record _ _ _)
      (.record (by decide) (.optional "src" Pattern.codec _) List.mem_cons_self) h
  have chosen : ∀ v, Chooses [Header.variant .ethernet "ethernet", Header.variant .ipv4 "ipv4",
      Header.variant .ipv6 "ipv6"] [(word "choice", word "ipv4")] v →
      v = Header.variant .ipv4 "ipv4" := by
    rintro v ⟨m, member, _, selects⟩
    rw [List.mem_singleton.mp member] at selects
    exact (Option.some.inj selects.find?).symm
  have reads : Header.codec.ReadsMember [(word "choice", word "ipv4")] "ipv4" Header.fieldsCodec :=
    .choice chosen (by decide) (.required "ipv4" Header.fieldsCodec .nil) List.mem_cons_self
  have first : Header.codec.Rearranges (headerDocument pattern) (headerDocument pattern') :=
    @Rearranges.member _ _ _ _ [(word "choice", word "ipv4")] [] _ _ _ object reads inside
  exact .tail (.single first) (.permute object (.swap _ _ _))

theorem flow_rearranges {header header' : Tree}
    (h : ReflTransGen Header.codec.Rearranges header header') :
    ReflTransGen Flow.codec.Rearranges (flowDocument header) (turnedFlow header') := by
  have object : Flow.codec.ReadsObjects := Flow.codec_isRegular.readsObjects rfl
  have reads : Flow.codec.ReadsMember (flowMembers ++ []) "packet" Header.codec.list :=
    .record (by decide) (.later _ _ _ _ _ _ <| .later _ _ _ _ _ _ <| .listed _ _ _)
      List.mem_cons_self
  have inside : ReflTransGen Flow.codec.Rearranges (flowDocument header) (flowDocument header') :=
    h.lift flowDocument fun _ _ step =>
      .member object reads (@Rearranges.item _ _ _ _ [] [] _ _ (.list _ _) step)
  have turned : Flow.codec.Rearranges (flowDocument header')
      (.record ((word "packet", .array [header']) :: flowMembers)) :=
    .permute object List.perm_middle
  have colored : Flow.codec.Rearranges (.record ((word "packet", .array [header']) :: flowMembers))
      (turnedFlow header') := by
    have added := @Rearranges.insert _ Flow.codec ((word "packet", .array [header']) :: flowMembers)
      [] "color" (word "red") object (.record (by decide)) (.scalar (by simp))
    rwa [List.append_nil] at added
  exact (inside.tail turned).tail colored

theorem config_rearranges {flow flow' : Tree} (h : ReflTransGen Flow.codec.Rearranges flow flow') :
    ReflTransGen Config.codec.Rearranges (flowsDocument flow) (flowsDocument flow') :=
  h.lift flowsDocument fun _ _ step =>
    @Rearranges.member _ _ _ _ [] [] _ _ _ (codec_isRegular.readsObjects rfl)
      (.record (by decide) (.later _ _ _ _ _ _ <| .later _ _ _ _ _ _ <|
        .listed "flows" Flow.codec _) List.mem_cons_self)
      (@Rearranges.item _ _ _ _ [] [] _ _ (.list _ _) step)

/-- A configuration with a flow that has a header. -/
def autoSourceConfig : Config where
  flows := [{ name := "f", endpoints := .ports "p" [], packet := [⟨.ipv4, some .auto, none⟩] }]

/-- The same configuration with its members in another order, and with two that mean nothing. -/
def turnedValue : Value :=
  .record [("flows", .list [.record [
    ("packet", .list [.record [
      ("ipv4", .record [("src", .record [("unit", .nat 1), ("choice", .text "auto")])]),
      ("choice", .text "ipv4")]]),
    ("name", .text "f"),
    ("tx_rx", .record [("choice", .text "port"),
      ("port", .record [("tx_name", .text "p"), ("rx_names", .list [])])]),
    ("color", .text "red")]])]

theorem plain_turnedValue : turnedValue.Plain 8 := by
  have names {fields : List (String × Value)} (h : fields.all (fun f => Value.isFieldName f.1)) :
      ∀ f ∈ fields, Value.isFieldName f.1 = true := List.all_eq_true.mp h
  simp only [turnedValue]
  repeat' first
    | exact .text _
    | exact .nat (by decide)
    | exact names (by decide)
    | exact List.forall_mem_nil _
    | refine List.forall_mem_cons.mpr ⟨?_, ?_⟩
    | refine .list ?_
    | refine .record ?_ ?_

theorem rearranged_documents_read_alike_turned :
    ofJson (Json.pretty turnedValue) = .ok autoSourceConfig := by
  have parsed : Json.parse? autoSourceConfig.toJson = some (flowsDocument (flowDocument
      (headerDocument (.record [(word "choice", word "auto")])))) :=
    parse?_toJson (by simp [autoSourceConfig])
  have parsed' : Json.parse? (Json.pretty turnedValue) = some (flowsDocument (turnedFlow
      (turnedHeader (.record [(word "unit", .typed (.nat 1)), (word "choice", word "auto")])))) :=
    Json.parse?_render plain_turnedValue (by decide) true
  obtain ⟨_, _, alike, _⟩ := rearranged_documents_read_alike parsed parsed'
  have read : ofJson autoSourceConfig.toJson = .ok autoSourceConfig :=
    read_toJson (by simp [autoSourceConfig])
  rcases alike (config_rearranges (flow_rearranges (header_rearranges pattern_rearranges))) with
    ⟨c, same, turned⟩ | ⟨failed, _⟩
  · rw [turned, ← same, read]
  · cases read.symm.trans failed

end Config

end IsisTestbed
