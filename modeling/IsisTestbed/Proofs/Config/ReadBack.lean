import IsisTestbed.Config.Format
import IsisTestbed.Proofs.Data.ReadBack

/-!
Documents of configurations, read back. Each codec of the format takes back what it writes, however
that is spelled; there is one lemma for each type of object. The names of constants are only known
as long as a document is not set aside.
-/

namespace IsisTestbed

open Codec Layout

theorem Port.codec_readsBack {sp : Spelling} (p : Port) : Port.codec.ReadsBack sp 1 p :=
  record_readsBack
    (required_readsBack (text_readsBack p.name) <|
      optional_readsBack (fun s _ => text_readsBack s) nil_readsBack)
    (by decide) rfl

/-! ### Ethernet interfaces -/

theorem Connection.remoteCodec_readsBack {sp : Spelling} (remote : String) :
    Connection.remoteCodec.ReadsBack sp 1 remote :=
  record_readsBack (required_readsBack (text_readsBack remote) nil_readsBack) (by decide) rfl

theorem Connection.codec_readsBack {sp : Spelling} (c : Connection) :
    Connection.codec.ReadsBack sp 2 c := by
  cases c with
  | port name =>
    exact choice_ofFields_readsBack rfl rfl (by decide)
      (required_readsBack (text_readsBack name) nil_readsBack) rfl
  | simulatedLink remote =>
    exact choice_ofFields_readsBack rfl rfl (by decide)
      (required_readsBack (remoteCodec_readsBack remote) nil_readsBack) rfl

theorem InterfaceAddress.codec_readsBack {sp : Spelling} (length : UInt8) (a : InterfaceAddress) :
    (InterfaceAddress.codec length).ReadsBack sp 1 a :=
  record_readsBack
    (required_readsBack (text_readsBack a.name) <|
      required_readsBack (text_readsBack a.address) <|
      required_readsBack (text_readsBack a.gateway) <|
      defaulted_readsBack (uint8_readsBack a.prefixLength) nil_readsBack)
    (show AreNames ["name", "address", "gateway", "prefix"] by decide) rfl

theorem Ethernet.codec_readsBack {sp : Spelling} (e : Ethernet) :
    Ethernet.codec.ReadsBack sp 3 e :=
  record_readsBack
    (required_readsBack (text_readsBack e.name) <|
      required_readsBack (text_readsBack e.mac) <|
      optional_readsBack (fun n _ => uint16_readsBack n) <|
      optional_readsBack (fun c _ => Connection.codec_readsBack c) <|
      listed_readsBack (list_readsBack fun a _ => InterfaceAddress.codec_readsBack 24 a) <|
      listed_readsBack (list_readsBack fun a _ => InterfaceAddress.codec_readsBack 64 a)
        nil_readsBack)
    (by decide) rfl

/-! ### ISIS routers -/

theorem RouterBasics.codec_readsBack {sp : Spelling} (b : RouterBasics) :
    RouterBasics.codec.ReadsBack sp 1 b :=
  record_readsBack
    (optional_readsBack (fun s _ => text_readsBack s) <|
      optional_readsBack (fun s _ => text_readsBack s) <|
      optional_readsBack (fun b _ => bool_readsBack b) <|
      optional_readsBack (fun b _ => bool_readsBack b) nil_readsBack)
    (by decide) rfl

theorem RouterAdvanced.codec_readsBack {sp : Spelling} (a : RouterAdvanced) :
    RouterAdvanced.codec.ReadsBack sp 2 a :=
  record_readsBack
    (optional_readsBack (fun b _ => bool_readsBack b) <|
      listed_readsBack (list_readsBack fun s _ => text_readsBack s) <|
      optional_readsBack (fun n _ => uint32_readsBack n) <|
      optional_readsBack (fun n _ => uint32_readsBack n) <|
      optional_readsBack (fun b _ => bool_readsBack b) nil_readsBack)
    (by decide) rfl

theorem NetworkType.codec_readsBack {sp : DirectSpelling} {depth : Nat} (t : NetworkType) :
    NetworkType.codec.ReadsBack sp depth t := by
  cases t <;> exact constants_readsBack rfl rfl

theorem LevelType.codec_readsBack {sp : DirectSpelling} {depth : Nat} (t : LevelType) :
    LevelType.codec.ReadsBack sp depth t := by
  cases t <;> exact constants_readsBack rfl rfl

theorem PriorityBandwidths.codec_readsBack {sp : Spelling} (b : PriorityBandwidths) :
    PriorityBandwidths.codec.ReadsBack sp 1 b :=
  record_readsBack
    (required_readsBack (uint64_readsBack b.pb0) <|
      required_readsBack (uint64_readsBack b.pb1) <|
      required_readsBack (uint64_readsBack b.pb2) <|
      required_readsBack (uint64_readsBack b.pb3) <|
      required_readsBack (uint64_readsBack b.pb4) <|
      required_readsBack (uint64_readsBack b.pb5) <|
      required_readsBack (uint64_readsBack b.pb6) <|
      required_readsBack (uint64_readsBack b.pb7) nil_readsBack)
    (by decide) rfl

theorem LinkState.codec_readsBack {sp : Spelling} (l : LinkState) :
    LinkState.codec.ReadsBack sp 2 l :=
  record_readsBack
    (optional_readsBack (fun n _ => uint32_readsBack n) <|
      optional_readsBack (fun b _ => PriorityBandwidths.codec_readsBack b) nil_readsBack)
    (by decide) rfl

theorem InterfaceAdvanced.codec_readsBack {sp : Spelling} (a : InterfaceAdvanced) :
    InterfaceAdvanced.codec.ReadsBack sp 1 a :=
  record_readsBack
    (optional_readsBack (fun b _ => bool_readsBack b) <|
      optional_readsBack (fun b _ => bool_readsBack b) <|
      optional_readsBack (fun b _ => bool_readsBack b) nil_readsBack)
    (by decide) rfl

theorem IsisInterface.codec_readsBack {sp : DirectSpelling} (i : IsisInterface) :
    IsisInterface.codec.ReadsBack sp 4 i :=
  record_readsBack
    (required_readsBack (text_readsBack i.name) <|
      required_readsBack (text_readsBack i.ethernet) <|
      optional_readsBack (fun n _ => uint32_readsBack n) <|
      optional_readsBack (fun t _ => NetworkType.codec_readsBack t) <|
      optional_readsBack (fun t _ => LevelType.codec_readsBack t) <|
      listed_readsBack (list_readsBack fun l _ => LinkState.codec_readsBack l) <|
      optional_readsBack
        (fun a _ => (InterfaceAdvanced.codec_readsBack a).mono (by decide)) nil_readsBack)
    (by decide) rfl

theorem RouteOrigin.codec_readsBack {sp : DirectSpelling} {depth : Nat} (o : RouteOrigin) :
    RouteOrigin.codec.ReadsBack sp depth o := by
  cases o <;> exact constants_readsBack rfl rfl

theorem RouteAddress.codec_readsBack {sp : Spelling} (a : RouteAddress) :
    RouteAddress.codec.ReadsBack sp 1 a :=
  record_readsBack
    (required_readsBack (text_readsBack a.address) <|
      optional_readsBack (fun n _ => uint8_readsBack n) <|
      optional_readsBack (fun n _ => uint32_readsBack n) <|
      optional_readsBack (fun n _ => uint32_readsBack n) nil_readsBack)
    (by decide) rfl

theorem RouteRange.codec_readsBack {sp : DirectSpelling} (r : RouteRange) : RouteRange.codec.ReadsBack sp 3 r :=
  record_readsBack
    (required_readsBack (text_readsBack r.name) <|
      defaulted_readsBack (list_readsBack fun a _ => RouteAddress.codec_readsBack a) <|
      optional_readsBack (fun n _ => uint32_readsBack n) <|
      optional_readsBack (fun o _ => RouteOrigin.codec_readsBack o) nil_readsBack)
    (by decide) rfl

theorem Router.codec_readsBack {sp : DirectSpelling} (r : Router) : Router.codec.ReadsBack sp 6 r := by
  have routes (range : RouteRange) : RouteRange.codec.ReadsBack sp 4 range :=
    (RouteRange.codec_readsBack range).mono (by decide)
  exact record_readsBack
    (required_readsBack (text_readsBack r.name) <|
      required_readsBack (text_readsBack r.systemId) <|
      optional_readsBack (fun b _ => (RouterBasics.codec_readsBack b).mono (by decide)) <|
      optional_readsBack (fun a _ => (RouterAdvanced.codec_readsBack a).mono (by decide)) <|
      listed_readsBack (list_readsBack fun i _ => IsisInterface.codec_readsBack i) <|
      listed_readsBack (list_readsBack fun range _ => routes range) <|
      listed_readsBack (list_readsBack fun range _ => routes range) nil_readsBack)
    (by decide) rfl

theorem Device.codec_readsBack {sp : DirectSpelling} (d : Device) : Device.codec.ReadsBack sp 7 d := by
  have ethernets (e : Ethernet) : Ethernet.codec.ReadsBack sp 5 e :=
    (Ethernet.codec_readsBack e).mono (by decide)
  exact record_readsBack
    (required_readsBack (text_readsBack d.name) <|
      listed_readsBack (list_readsBack fun e _ => ethernets e) <|
      optional_readsBack (fun r _ => Router.codec_readsBack r) nil_readsBack)
    (by decide) rfl

/-! ### Flows -/

theorem Endpoints.portsCodec_readsBack {sp : Spelling} (sides : String × List String) :
    Endpoints.portsCodec.ReadsBack sp 2 sides :=
  record_readsBack
    (required_readsBack (text_readsBack sides.1) <|
      defaulted_readsBack (list_readsBack fun s _ => text_readsBack s) nil_readsBack)
    (by decide) rfl

theorem Endpoints.devicesCodec_readsBack {sp : Spelling} (sides : List String × List String) :
    Endpoints.devicesCodec.ReadsBack sp 2 sides :=
  record_readsBack
    (required_readsBack (list_readsBack fun s _ => text_readsBack s) <|
      required_readsBack (list_readsBack fun s _ => text_readsBack s) nil_readsBack)
    (by decide) rfl

theorem Endpoints.codec_readsBack {sp : Spelling} (e : Endpoints) :
    Endpoints.codec.ReadsBack sp 3 e := by
  cases e with
  | ports tx rx =>
    exact choice_ofFields_readsBack rfl rfl (by decide)
      (required_readsBack (portsCodec_readsBack (tx, rx)) nil_readsBack) rfl
  | devices tx rx =>
    exact choice_ofFields_readsBack rfl rfl (by decide)
      (required_readsBack (devicesCodec_readsBack (tx, rx)) nil_readsBack) rfl

theorem Pattern.codec_readsBack {sp : Spelling} (p : Pattern) :
    Pattern.codec.ReadsBack sp 2 p := by
  cases p with
  | auto => exact choice_readsBack (v := .bare "auto" .auto) rfl rfl (by simp) (by simp) rfl
  | value v =>
    exact choice_ofFields_readsBack rfl rfl (by decide)
      (required_readsBack (text_readsBack v) nil_readsBack) rfl
  | values vs =>
    exact choice_ofFields_readsBack rfl rfl (by decide)
      (required_readsBack (list_readsBack fun s _ => text_readsBack s) nil_readsBack) rfl

theorem Header.fieldsCodec_readsBack {sp : Spelling} (sides : Option Pattern × Option Pattern) :
    Header.fieldsCodec.ReadsBack sp 3 sides :=
  record_readsBack
    (optional_readsBack (fun p _ => Pattern.codec_readsBack p) <|
      optional_readsBack (fun p _ => Pattern.codec_readsBack p) nil_readsBack)
    (by decide) rfl

theorem Header.codec_readsBack {sp : Spelling} (h : Header) :
    Header.codec.ReadsBack sp 4 h := by
  obtain ⟨protocol, src, dst⟩ := h
  cases protocol <;>
    exact choice_ofFields_readsBack rfl rfl (by decide)
      (required_readsBack (fieldsCodec_readsBack (src, dst)) nil_readsBack) rfl

/-- Rates that are numbers of packets are read back. -/
theorem Rate.codec_readsBack {sp : Spelling} (pps : UInt64) :
    Rate.codec.ReadsBack sp 2 (.packetsPerSecond pps) :=
  choice_ofFields_readsBack rfl rfl (by decide)
    (required_readsBack (uint64_readsBack pps) nil_readsBack) rfl

theorem FixedPackets.fieldsCodec_readsBack {sp : Spelling} (p : FixedPackets) :
    FixedPackets.fieldsCodec.ReadsBack sp 1 p :=
  record_readsBack
    (required_readsBack (uint64_readsBack p.packets) <|
      optional_readsBack (fun n _ => uint32_readsBack n) nil_readsBack)
    (by decide) rfl

theorem FixedPackets.codec_readsBack {sp : Spelling} (p : FixedPackets) :
    FixedPackets.codec.ReadsBack sp 2 p :=
  choice_ofFields_readsBack rfl rfl (by decide)
    (required_readsBack (fieldsCodec_readsBack p) nil_readsBack) rfl

theorem FlowMetrics.codec_readsBack {sp : Spelling} (m : FlowMetrics) :
    FlowMetrics.codec.ReadsBack sp 1 m :=
  record_readsBack
    (required_readsBack (bool_readsBack m.enable) <|
      optional_readsBack (fun b _ => bool_readsBack b) nil_readsBack)
    (by decide) rfl

/-- A flow is read back if its rate, if it has one, is a number of packets. -/
theorem Flow.codec_readsBack {sp : Spelling} (f : Flow)
    (rate : ∀ share, f.rate ≠ some (.percentage share)) : Flow.codec.ReadsBack sp 6 f := by
  have rates : ∀ r ∈ f.rate, Rate.codec.ReadsBack sp 5 r := by
    intro r hr
    cases r with
    | packetsPerSecond pps => exact (Rate.codec_readsBack pps).mono (by decide)
    | percentage share => exact absurd hr (rate share)
  exact record_readsBack
    (required_readsBack (text_readsBack f.name) <|
      required_readsBack ((Endpoints.codec_readsBack f.endpoints).mono (by decide)) <|
      listed_readsBack (list_readsBack fun h _ => Header.codec_readsBack h) <|
      optional_readsBack rates <|
      optional_readsBack (fun p _ => (FixedPackets.codec_readsBack p).mono (by decide)) <|
      optional_readsBack (fun m _ => (FlowMetrics.codec_readsBack m).mono (by decide))
        nil_readsBack)
    (by decide) rfl

/-! ### Configurations -/

namespace Config

/-- A configuration is read back if no flow is sent at a share of the line rate. -/
theorem codec_readsBack {sp : DirectSpelling} {c : Config}
    (h : ∀ f ∈ c.flows, ∀ share, f.rate ≠ some (.percentage share)) :
    codec.ReadsBack sp 9 c := by
  have ports (p : Port) : Port.codec.ReadsBack sp 7 p :=
    (Port.codec_readsBack p).mono (by decide)
  have flows (f : Flow) (hf : f ∈ c.flows) : Flow.codec.ReadsBack sp 7 f :=
    (Flow.codec_readsBack f (h f hf)).mono (by decide)
  exact record_readsBack
    (listed_readsBack (list_readsBack fun p _ => ports p) <|
      listed_readsBack (list_readsBack fun d _ => Device.codec_readsBack d) <|
      listed_readsBack (list_readsBack flows) nil_readsBack)
    (by decide) rfl

end Config

end IsisTestbed
