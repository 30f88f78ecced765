import Mathlib.Data.List.Forall2
import SocksGateway.Config.Location

/-!
The values that a configuration can be written as. A record is written as a table, in which a field
may be left out if it has its default, or as an array of its fields in their order, of which the
last may be left out if they have theirs. However each of the records in a configuration is written,
the same configuration is read.
-/
namespace SocksGateway

/-- A field of a record: its key, what values it is written as, and what it is if it is left out. -/
structure Field (σ : Type) where
  key : String
  {α : Type}
  get : σ → α
  Form : α → Value → Prop
  default? : Option α

namespace Field
variable {σ : Type}

def Written (f : Field σ) (s : σ) (v : Value) : Prop := f.Form (f.get s) v

def Omissible (f : Field σ) (s : σ) : Prop := f.default? = some (f.get s)

/-- The values that a record with these fields is written as. -/
inductive Forms (fields : List (Field σ)) (s : σ) : Value → Prop
  | table {kept cut : List (Field σ)} {entries : List (String × Value)}
      (parts : fields.Perm (kept ++ cut))
      (written : List.Forall₂ (fun f e => e.1 = f.key ∧ f.Written s e.2) kept entries)
      (omissible : ∀ f ∈ cut, f.Omissible s) : Forms fields s (.table entries)
  | array {kept cut : List (Field σ)} {items : List Value} (parts : fields = kept ++ cut)
      (written : List.Forall₂ (fun f v => f.Written s v) kept items)
      (omissible : ∀ f ∈ cut, f.Omissible s) : Forms fields s (.array items)

end Field

namespace Value

/-- A value that is written in one way only. -/
def Exactly {α : Type} (encode : α → Value) (a : α) (v : Value) : Prop := v = encode a

def Listed {α : Type} (Form : α → Value → Prop) (xs : List α) (v : Value) : Prop :=
  ∃ items, v.items? = some items ∧ List.Forall₂ Form xs items

end Value

open Value (Exactly Listed)

def LogSettings.fields : List (Field LogSettings) :=
  [⟨"level", level, Exactly fun l => .string l.name, some .info⟩,
    ⟨"limit", limit, Exactly fun n => .integer n.toNat, some 100⟩,
    ⟨"event_interval_ms", interval, Exactly fun n => .integer n.toNat, some 1000⟩,
    ⟨"mirror", mirror, Exactly .ofOption, some none⟩]

def ProxySettings.fields : List (Field ProxySettings) :=
  [⟨"endpoint", endpoint, Exactly .string, none⟩,
    ⟨"username", username, Exactly .ofOption, some none⟩,
    ⟨"password", password, Exactly .ofOption, some none⟩,
    ⟨"protocols", protocols, Exactly fun m => .string m.name, some .both⟩,
    ⟨"start", start, Exactly .boolean, some true⟩,
    ⟨"processes", processes, Listed (Exactly .string), some []⟩]

def RuleSettings.fields : List (Field RuleSettings) :=
  [⟨"process", process, Exactly .string, none⟩,
    ⟨"include_cidrs", allowed, Listed (Exactly .string), some []⟩,
    ⟨"exclude_cidrs", denied, Listed (Exactly .string), some []⟩]

def Config.fields : List (Field Config) :=
  [⟨"bypass_lan", bypassLan, Exactly .boolean, some false⟩,
    ⟨"excludes", excludes, Listed (Exactly .string), some []⟩,
    ⟨"logging", logging, Field.Forms LogSettings.fields, some ⟨.info, 100, 1000, none⟩⟩,
    ⟨"proxies", proxies, Listed (Field.Forms ProxySettings.fields), some []⟩,
    ⟨"rules", rules, Listed (Field.Forms RuleSettings.fields), some []⟩]

namespace Schema

/-- A decoder reads every form of a value as that value. -/
def Reads {α : Type} (d : Decoder α) (Form : α → Value → Prop) : Prop :=
  ∀ a v, Form a v → d v = .ok a

theorem reads_bool : Reads bool (Exactly .boolean) := by
  rintro a v rfl
  rfl

theorem reads_text (expected : String) : Reads (textAs expected) (Exactly .string) := by
  rintro a v rfl
  rfl

theorem reads_optional (expected : String) :
    Reads (optional (textAs expected)) (Exactly .ofOption) := by
  rintro a v rfl
  cases a <;> rfl

theorem reads_word (expected : String) :
    Reads (word expected) (Exactly fun n => .integer n.toNat) := by
  rintro n v rfl
  have hn : n.toNat < 18446744073709551616 := n.toNat_lt
  have hrange : 0 ≤ (n.toNat : Int) ∧ (n.toNat : Int) < 18446744073709551616 := by omega
  simp [word, hrange]

theorem reads_choice {α : Type} {name : α → String} {ofName? : String → Option α}
    {names : List String} (h : ∀ a, ofName? (name a) = some a) :
    Reads (choice ofName? names) (Exactly fun a => .string (name a)) := by
  rintro a v rfl
  simp [choice, choice.named, h]

theorem reads_list {α : Type} {d : Decoder α} {Form : α → Value → Prop} (h : Reads d Form) :
    Reads (list d) (Listed Form) := by
  rintro xs v ⟨items, hitems, hforms⟩
  simp only [list, hitems]
  clear hitems
  induction hforms with
  | nil => rfl
  | cons hform _ ih => rw [List.mapM_cons, h _ _ hform, ih]; rfl

/-- A record takes the fields of `s` one by one; `Has x f` says that `x` has the field `f`
already. -/
structure Record.Takes {σ τ : Type} (r : Record τ) (fields : List (Field σ)) (s : σ)
    (Has : τ → Field σ → Prop) :
    Prop where
  keys : r.fields = fields.map Field.key
  set : ∀ f ∈ fields, ∀ v, f.Written s v →
    ∀ x, ∃ y, r.set x (f.key, v) = .ok y ∧ Has y f ∧ ∀ g ∈ fields, Has x g → Has y g
  empty : ∀ f ∈ fields, f.Omissible s → Has r.empty f

namespace Record
variable {σ τ : Type} {r : Record τ} {fields : List (Field σ)} {s : σ}
  {Has : τ → Field σ → Prop}

theorem Takes.foldlM (h : r.Takes fields s Has) {kept : List (Field σ)}
    {entries : List (String × Value)} (hkept : ∀ f ∈ kept, f ∈ fields)
    (hwritten : List.Forall₂ (fun f e => e.1 = f.key ∧ f.Written s e.2) kept entries) (x : τ) :
    ∃ y, entries.foldlM r.set x = .ok y ∧ (∀ f ∈ kept, Has y f) ∧
      ∀ g ∈ fields, Has x g → Has y g := by
  induction hwritten generalizing x with
  | nil => exact ⟨x, rfl, nofun, fun _ _ hx => hx⟩
  | @cons f e kept entries he _ ih =>
    obtain ⟨key, v⟩ := e
    obtain ⟨rfl, hv⟩ := he
    have hf := hkept f List.mem_cons_self
    obtain ⟨y, hset, hfy, hold⟩ := h.set f hf v hv x
    obtain ⟨z, hrest, hz, hkeep⟩ := ih (fun g hg => hkept g (List.mem_cons_of_mem _ hg)) y
    refine ⟨z, ?_, ?_, fun g hg hx => hkeep g hg (hold g hg hx)⟩
    · rw [List.foldlM_cons, hset]
      exact hrest
    · exact List.forall_mem_cons.2 ⟨hkeep f hf hfy, hz⟩

theorem Takes.decode (h : r.Takes fields s Has) {v : Value} (hv : Field.Forms fields s v) :
    ∃ x, r.decode v = .ok x ∧ ∀ f ∈ fields, Has x f := by
  -- an array is read as the table of its items under the first of the keys
  have hentries : ∃ kept cut entries, fields.Perm (kept ++ cut) ∧
      List.Forall₂ (fun f e => e.1 = f.key ∧ f.Written s e.2) kept entries ∧
        (∀ f ∈ cut, f.Omissible s) ∧
      r.given? v = some entries := by
    cases hv with
    | @table kept cut entries parts written omissible =>
      exact ⟨kept, cut, entries, parts, written, omissible, rfl⟩
    | @array kept cut items parts written omissible =>
      refine ⟨kept, cut, r.fields.zip items, .of_eq parts, ?_, omissible, rfl⟩
      rw [h.keys, parts, List.map_append]
      clear parts
      induction written with
      | nil => simp
      | cons hw _ ih => exact .cons ⟨rfl, hw⟩ ih
  obtain ⟨kept, cut, entries, parts, written, omissible, hgiven⟩ := hentries
  have hkept : ∀ f ∈ kept, f ∈ fields :=
    fun f hf => parts.mem_iff.2 (List.mem_append_left cut hf)
  have hcut : ∀ f ∈ cut, f ∈ fields :=
    fun f hf => parts.mem_iff.2 (List.mem_append_right kept hf)
  obtain ⟨x, hx, hhas, hold⟩ := h.foldlM hkept written r.empty
  refine ⟨x, by rw [Record.decode, hgiven]; exact hx, fun f hf => ?_⟩
  rcases List.mem_append.1 (parts.mem_iff.1 hf) with hf | hf
  · exact hhas f hf
  · exact hold f (hcut f hf) (h.empty f (hcut f hf) (omissible f hf))

end Record

theorem logRecord_takes (s : LogSettings) :
    logRecord.Takes LogSettings.fields s fun x f => f.get x = f.get s where
  keys := rfl
  set := by
    intro f hf v hv x
    simp only [LogSettings.fields, List.mem_cons, List.not_mem_nil, or_false] at hf
    rcases hf with rfl | rfl | rfl | rfl
    · have hread : choice Level.ofName? Level.names v = .ok s.level :=
        reads_choice Level.ofName?_name _ _ hv
      exact ⟨{ x with level := s.level }, by simp [logRecord, hread],
        rfl, by simp [LogSettings.fields]⟩
    · have hread := reads_word "usize" s.limit v hv
      exact ⟨{ x with limit := s.limit }, by simp [logRecord, hread],
        rfl, by simp [LogSettings.fields]⟩
    · have hread := reads_word "u64" s.interval v hv
      exact ⟨{ x with interval := s.interval }, by simp [logRecord, hread],
        rfl, by simp [LogSettings.fields]⟩
    · have hread := reads_optional "path string" s.mirror v hv
      exact ⟨{ x with mirror := s.mirror }, by simp [logRecord, hread],
        rfl, by simp [LogSettings.fields]⟩
  empty := by
    intro f hf h
    simp only [LogSettings.fields, List.mem_cons, List.not_mem_nil, or_false] at hf
    rcases hf with rfl | rfl | rfl | rfl <;> exact Option.some.inj h

theorem reads_logSettings : Reads logSettings (Field.Forms LogSettings.fields) := by
  intro s v hv
  obtain ⟨x, hx, hhas⟩ := (logRecord_takes s).decode hv
  simp only [LogSettings.fields, List.forall_mem_cons, List.not_mem_nil, false_imp_iff,
    forall_true_iff, and_true] at hhas
  obtain ⟨hlevel, hlimit, hinterval, hmirror⟩ := hhas
  rw [logSettings, hx]
  cases x
  simp_all

/-- A field of a record that is kept beside its first field, which must be given. -/
def Has {σ : Type} (first : String) (whole : Option String × σ → σ) (s : σ)
    (x : Option String × σ) (f : Field σ) :
    Prop :=
  f.get (whole x) = f.get s ∧ (f.key = first → x.1.isSome)

theorem proxyRecord_takes (s : ProxySettings) : proxyRecord.Takes ProxySettings.fields s
    (Has "endpoint" (fun x => { x.2 with endpoint := x.1.getD "" }) s) where
  keys := rfl
  set := by
    intro f hf v hv x
    simp only [ProxySettings.fields, List.mem_cons, List.not_mem_nil, or_false] at hf
    rcases hf with rfl | rfl | rfl | rfl | rfl | rfl
    · have hread := reads_text "a string" s.endpoint v hv
      refine ⟨(some s.endpoint, x.2), by simp [proxyRecord, text, hread], by simp [Has], ?_⟩
      simp +contextual [Has, ProxySettings.fields]
    · have hread := reads_optional "a string" s.username v hv
      refine ⟨(x.1, { x.2 with username := s.username }),
        by simp [proxyRecord, text, hread], by simp [Has], ?_⟩
      simp +contextual [Has, ProxySettings.fields]
    · have hread := reads_optional "a string" s.password v hv
      refine ⟨(x.1, { x.2 with password := s.password }),
        by simp [proxyRecord, text, hread], by simp [Has], ?_⟩
      simp +contextual [Has, ProxySettings.fields]
    · have hread : choice ProtocolMask.ofName? ProtocolMask.names v = .ok s.protocols :=
        reads_choice ProtocolMask.ofName?_name _ _ hv
      refine ⟨(x.1, { x.2 with protocols := s.protocols }),
        by simp [proxyRecord, hread], by simp [Has], ?_⟩
      simp +contextual [Has, ProxySettings.fields]
    · have hread := reads_bool s.start v hv
      refine ⟨(x.1, { x.2 with start := s.start }), by simp [proxyRecord, hread], by simp [Has],
        ?_⟩
      simp +contextual [Has, ProxySettings.fields]
    · have hread := reads_list (reads_text "a string") s.processes v hv
      refine ⟨(x.1, { x.2 with processes := s.processes }),
        by simp [proxyRecord, text, hread], by simp [Has], ?_⟩
      simp +contextual [Has, ProxySettings.fields]
  empty := by
    intro f hf h
    simp only [ProxySettings.fields, List.mem_cons, List.not_mem_nil, or_false] at hf
    rcases hf with rfl | rfl | rfl | rfl | rfl | rfl
    · cases h
    all_goals exact ⟨Option.some.inj h, nofun⟩

theorem reads_proxySettings : Reads proxySettings (Field.Forms ProxySettings.fields) := by
  intro s v hv
  obtain ⟨⟨endpoint, x⟩, hx, hhas⟩ := (proxyRecord_takes s).decode hv
  simp only [ProxySettings.fields, Has, List.forall_mem_cons, List.not_mem_nil,
    false_imp_iff, forall_true_iff, and_true] at hhas
  obtain ⟨⟨hendpoint, hgiven⟩, ⟨husername, -⟩, ⟨hpassword, -⟩, ⟨hprotocols, -⟩,
      ⟨hstart, -⟩, ⟨hprocesses, -⟩⟩ := hhas
  obtain ⟨endpoint, rfl⟩ := Option.isSome_iff_exists.1 (hgiven trivial)
  have hs : { x with endpoint } = s := by
    cases s
    simp_all
  rw [proxySettings, hx]
  exact congrArg Except.ok hs

theorem ruleRecord_takes (s : RuleSettings) : ruleRecord.Takes RuleSettings.fields s
    (Has "process" (fun x => { x.2 with process := x.1.getD "" }) s) where
  keys := rfl
  set := by
    intro f hf v hv x
    simp only [RuleSettings.fields, List.mem_cons, List.not_mem_nil, or_false] at hf
    rcases hf with rfl | rfl | rfl
    · have hread := reads_text "a string" s.process v hv
      refine ⟨(some s.process, x.2), by simp [ruleRecord, text, hread], by simp [Has], ?_⟩
      simp +contextual [Has, RuleSettings.fields]
    · have hread := reads_list (reads_text "a string") s.allowed v hv
      refine ⟨(x.1, { x.2 with allowed := s.allowed }),
        by simp [ruleRecord, text, hread], by simp [Has], ?_⟩
      simp +contextual [Has, RuleSettings.fields]
    · have hread := reads_list (reads_text "a string") s.denied v hv
      refine ⟨(x.1, { x.2 with denied := s.denied }),
        by simp [ruleRecord, text, hread], by simp [Has], ?_⟩
      simp +contextual [Has, RuleSettings.fields]
  empty := by
    intro f hf h
    simp only [RuleSettings.fields, List.mem_cons, List.not_mem_nil, or_false] at hf
    rcases hf with rfl | rfl | rfl
    · cases h
    all_goals exact ⟨Option.some.inj h, nofun⟩

theorem reads_ruleSettings : Reads ruleSettings (Field.Forms RuleSettings.fields) := by
  intro s v hv
  obtain ⟨⟨process, x⟩, hx, hhas⟩ := (ruleRecord_takes s).decode hv
  simp only [RuleSettings.fields, Has, List.forall_mem_cons, List.not_mem_nil,
    false_imp_iff, forall_true_iff, and_true] at hhas
  obtain ⟨⟨hprocess, hgiven⟩, ⟨hallowed, -⟩, ⟨hdenied, -⟩⟩ := hhas
  obtain ⟨process, rfl⟩ := Option.isSome_iff_exists.1 (hgiven trivial)
  have hs : { x with process } = s := by
    cases s
    simp_all
  rw [ruleSettings, hx]
  exact congrArg Except.ok hs

theorem configRecord_takes (c : Config) :
    configRecord.Takes Config.fields c fun x f => f.get x = f.get c where
  keys := rfl
  set := by
    intro f hf v hv x
    simp only [Config.fields, List.mem_cons, List.not_mem_nil, or_false] at hf
    rcases hf with rfl | rfl | rfl | rfl | rfl
    · have hread := reads_bool c.bypassLan v hv
      exact ⟨{ x with bypassLan := c.bypassLan }, by simp [configRecord, hread],
        rfl, by simp [Config.fields]⟩
    · have hread := reads_list (reads_text "a string") c.excludes v hv
      exact ⟨{ x with excludes := c.excludes }, by simp [configRecord, text, hread],
        rfl, by simp [Config.fields]⟩
    · have hread := reads_logSettings c.logging v hv
      exact ⟨{ x with logging := c.logging }, by simp [configRecord, hread],
        rfl, by simp [Config.fields]⟩
    · have hread := reads_list reads_proxySettings c.proxies v hv
      exact ⟨{ x with proxies := c.proxies }, by simp [configRecord, hread],
        rfl, by simp [Config.fields]⟩
    · have hread := reads_list reads_ruleSettings c.rules v hv
      exact ⟨{ x with rules := c.rules }, by simp [configRecord, hread],
        rfl, by simp [Config.fields]⟩
  empty := by
    intro f hf h
    simp only [Config.fields, List.mem_cons, List.not_mem_nil, or_false] at hf
    rcases hf with rfl | rfl | rfl | rfl | rfl <;> exact Option.some.inj h

theorem reads_config : Reads config (Field.Forms Config.fields) := by
  intro c v hv
  obtain ⟨x, hx, hhas⟩ := (configRecord_takes c).decode hv
  simp only [Config.fields, List.forall_mem_cons, List.not_mem_nil, false_imp_iff,
    forall_true_iff, and_true] at hhas
  obtain ⟨hlan, hexcludes, hlogging, hproxies, hrules⟩ := hhas
  rw [config, hx]
  cases x
  simp_all

end Schema

theorem Field.Forms.full {σ : Type} {fields : List (Field σ)} {s : σ}
    {entries : List (String × Value)}
    (written : List.Forall₂ (fun f e => e.1 = f.key ∧ f.Written s e.2) fields entries) :
    Field.Forms fields s (.table entries) :=
  .table (.of_eq (List.append_nil fields).symm) written nofun

theorem Value.listed_map {α : Type} {Form : α → Value → Prop} {encode : α → Value}
    (h : ∀ a, Form a (encode a)) (xs : List α) : Listed Form xs (.array (xs.map encode)) := by
  refine ⟨xs.map encode, rfl, ?_⟩
  rw [List.forall₂_map_right_iff]
  exact List.forall₂_same.2 fun a _ => h a

theorem Value.listed_strings (texts : List String) :
    Listed (Exactly .string) texts (.strings texts) := by
  have h : ∀ text, Exactly string text (string text) := fun _ => rfl
  exact listed_map h texts

theorem LogSettings.form_toValue (s : LogSettings) : Field.Forms fields s s.toValue :=
  .full (by simp [fields, Field.Written, Exactly])

theorem ProxySettings.form_toValue (s : ProxySettings) : Field.Forms fields s s.toValue :=
  .full (by simp [fields, Field.Written, Exactly, Value.listed_strings])

theorem RuleSettings.form_toValue (s : RuleSettings) : Field.Forms fields s s.toValue :=
  .full (by simp [fields, Field.Written, Exactly, Value.listed_strings])

namespace Config

/-- A configuration is read from all that it can be written as, its own value among them. -/
theorem ofValue_of_form (c : Config) :
    Field.Forms fields c c.toValue ∧
    (∀ v, Field.Forms fields c v → ofValue v = .ok c) ∧
    ∀ document v, Toml.read document = some v → Field.Forms fields c v →
      ofToml document = .ok c := by
  have hread : ∀ v, Field.Forms fields c v → ofValue v = .ok c := Schema.reads_config c
  refine ⟨.full ?_, hread,
    fun document v hdocument hv => by simp [ofToml, hdocument, hread v hv]⟩
  have hproxies := Value.listed_map ProxySettings.form_toValue c.proxies
  have hrules := Value.listed_map RuleSettings.form_toValue c.rules
  simp [fields, Field.Written, Exactly, Value.listed_strings,
    LogSettings.form_toValue, hproxies, hrules]

theorem ofValue_of_mixed_forms :
    let logging : LogSettings := ⟨.debug, 18446744073709551615, 1000, some "/var/log/é.jsonl"⟩
    let first : ProxySettings := ⟨"127.0.0.1:1080", none, none, .tcp, true, ["firefox"]⟩
    let second : ProxySettings := ⟨"[::1]:9050", some "u", none, .both, true, []⟩
    let denied : RuleSettings := ⟨"firefox", [], ["10.0.0.0/8"]⟩
    let v : Value := .array
      [.boolean false, .strings ["curl"],
        .table [("level", .string "debug"), ("limit", .integer 18446744073709551615),
          ("mirror", .string "/var/log/é.jsonl")],
        .array
          [.array [.string "127.0.0.1:1080", .null, .null, .string "tcp",
            .boolean true, .strings ["firefox"]],
            .array [.string "[::1]:9050", .string "u"]],
        .array
          [.table [("exclude_cidrs", .strings ["10.0.0.0/8"]), ("include_cidrs", .strings []),
            ("process", .string "firefox")]]]
    let c : Config := ⟨false, ["curl"], logging, [first, second], [denied]⟩
    Field.Forms fields c v ∧ ofValue v = .ok c := by
  intro logging first second denied v c
  have hlogging : Field.Forms LogSettings.fields logging (.table [("level", .string "debug"),
      ("limit", .integer 18446744073709551615), ("mirror", .string "/var/log/é.jsonl")]) := by
    have hparts :
        LogSettings.fields.Perm (LogSettings.fields.eraseIdx 2 ++
        (LogSettings.fields.drop 2).take 1) :=
      .cons _ (.cons _ (.swap _ _ _))
    refine .table hparts ?_ ?_
    · exact .cons ⟨rfl, rfl⟩ (.cons ⟨rfl, rfl⟩ (.cons ⟨rfl, rfl⟩ .nil))
    · simp [LogSettings.fields, Field.Omissible, logging]
  have hfirst :
      Field.Forms ProxySettings.fields first (.array [.string "127.0.0.1:1080", .null, .null,
      .string "tcp", .boolean true, .strings ["firefox"]]) := by
    refine .array (List.append_nil _).symm ?_ nofun
    exact .cons
      rfl (.cons rfl (.cons rfl (.cons rfl (.cons rfl (.cons (Value.listed_strings _) .nil)))))
  have hsecond :
      Field.Forms ProxySettings.fields second (.array [.string "[::1]:9050", .string "u"]) := by
    refine .array (List.take_append_drop 2 _).symm (.cons rfl (.cons rfl .nil)) ?_
    simp [ProxySettings.fields, Field.Omissible, second]
  have hdenied :
      Field.Forms RuleSettings.fields denied (.table [("exclude_cidrs", .strings ["10.0.0.0/8"]),
      ("include_cidrs", .strings []), ("process", .string "firefox")]) := by
    have hparts : RuleSettings.fields.Perm (RuleSettings.fields.reverse ++ []) :=
      (List.append_nil _).symm ▸ (List.reverse_perm _).symm
    refine .table hparts ?_ nofun
    exact .cons ⟨rfl, Value.listed_strings _⟩
      (.cons ⟨rfl, Value.listed_strings _⟩ (.cons ⟨rfl, rfl⟩ .nil))
  have hv : Field.Forms fields c v := by
    refine .array (List.append_nil fields).symm ?_ nofun
    exact .cons rfl (.cons (Value.listed_strings _) (.cons hlogging
      (.cons ⟨_, rfl, .cons hfirst (.cons hsecond .nil)⟩
        (.cons ⟨_, rfl, .cons hdenied .nil⟩ .nil))))
  exact ⟨hv, (ofValue_of_form c).2.1 v hv⟩

end Config
end SocksGateway
