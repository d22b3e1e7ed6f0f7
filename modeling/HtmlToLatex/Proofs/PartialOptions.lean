import HtmlToLatex.Config
import HtmlToLatex.Proofs.Attempts
import HtmlToLatex.Proofs.KeyOrder

set_option autoImplicit false

/-! # Options that are given in part

A document gives any of the options and may hold anything else. Here an option is seen as a key with
a value, `Options.value?`, and a document as a list of such entries. Reading the document takes the
values that it gives over those that are there by default, whatever their order and whatever else
it holds, and fails if one of them is not of its kind, `parseOptions_overrides`. The first such
value is reported, in the order of the keys of the document. -/

namespace HtmlToLatex

/-! ## Kinds of options -/

/-- The kind of value that an option has. -/
inductive OptionKind where
  | boolean
  | text
  | path
  | texts
  deriving Repr, DecidableEq

/-- The keys of the options, with their kinds. -/
def optionKinds : List (String × OptionKind) :=
  [("ignore_breaks", .boolean), ("prefer_dollar_inline_math", .boolean),
    ("skip_wrapping_equations", .boolean), ("autogen_image_names", .boolean),
    ("image_width", .text), ("image_height", .text), ("keep_image_aspect_ratio", .boolean),
    ("center_images", .boolean), ("compilation_dir", .path), ("debug", .boolean),
    ("include_document_wrapper", .boolean), ("doc_class", .text), ("title", .text),
    ("author", .text), ("include_date", .boolean), ("include_packages", .texts)]

/-- The kind of the option of a key. Other keys have none. -/
def optionKind? (key : String) : Option OptionKind :=
  optionKinds.lookup key

/-- The values of a kind. -/
inductive OptionKind.Admits : OptionKind → Toml.Value → Prop
  | boolean (b : Bool) : Admits .boolean (.boolean b)
  | text (content : String) : Admits .text (.string content)
  | path (content : String) : Admits .path (.string content)
  | texts (contents : List String) : Admits .texts (.array (contents.map .string))

/-- A value that is no text. -/
def NoText (v : Toml.Value) : Prop :=
  ∀ content, v ≠ .string content

/-- The values that are not of a kind, with what is reported about them. In an array the first
    element that is no text is reported. -/
inductive OptionKind.Rejects : OptionKind → Toml.Value → KindMismatch → Prop
  | boolean {v : Toml.Value} (h : ∀ b, v ≠ .boolean b) : Rejects .boolean v ⟨v, "a boolean"⟩
  | text {v : Toml.Value} (h : NoText v) : Rejects .text v ⟨v, "a string"⟩
  | path {v : Toml.Value} (h : NoText v) : Rejects .path v ⟨v, "path string"⟩
  | texts {v : Toml.Value} (h : ∀ items, v ≠ .array items) : Rejects .texts v ⟨v, "a sequence"⟩
  | element (front : List String) {v : Toml.Value} (back : List Toml.Value) (h : NoText v) :
      Rejects .texts (.array (front.map .string ++ v :: back)) ⟨v, "a string"⟩

theorem OptionKind.Rejects.not_admits {kind : OptionKind} {v : Toml.Value} {m : KindMismatch}
    (h : kind.Rejects v m) : ¬kind.Admits v := by
  intro hadmits
  cases h with
  | boolean h =>
      cases hadmits with
      | boolean b => exact h b rfl
  | text h =>
      cases hadmits with
      | text content => exact h content rfl
  | path h =>
      cases hadmits with
      | path content => exact h content rfl
  | texts h =>
      cases hadmits with
      | texts contents => exact h _ rfl
  | @element front v back h =>
      generalize hitems : Toml.Value.array _ = w at hadmits
      cases hadmits with
      | texts contents =>
          have hmem : v ∈ contents.map Toml.Value.string := by
            rw [← Toml.Value.array.inj hitems]
            simp
          obtain ⟨content, -, rfl⟩ := List.mem_map.1 hmem
          exact h content rfl

/-! ## Options as values -/

/-- The value of an option, as a document gives it. There is none if the option is not set. -/
def Options.value? (options : Options) : String → Option Toml.Value
  | "ignore_breaks" => some (.boolean options.ignoreBreaks)
  | "prefer_dollar_inline_math" => some (.boolean options.preferDollarMath)
  | "skip_wrapping_equations" => some (.boolean options.skipEquationWrap)
  | "autogen_image_names" => some (.boolean options.autogenImageNames)
  | "image_width" => options.imageWidth.map .string
  | "image_height" => options.imageHeight.map .string
  | "keep_image_aspect_ratio" => some (.boolean options.keepAspectRatio)
  | "center_images" => some (.boolean options.centerImages)
  | "compilation_dir" => options.compilationDir.map fun path => .string path.text
  | "debug" => some (.boolean options.debug)
  | "include_document_wrapper" => some (.boolean options.documentWrapper)
  | "doc_class" => some (.string options.docClass)
  | "title" => options.title.map .string
  | "author" => options.author.map .string
  | "include_date" => some (.boolean options.includeDate)
  | "include_packages" => options.packages.map fun names => .array (names.map .string)
  | _ => none

/-- Every option that is set has a value of its kind, those that are set by default included. -/
theorem Options.admits_value? (options : Options) {key : String} {kind : OptionKind}
    {v : Toml.Value} (hkind : optionKind? key = some kind) (h : options.value? key = some v) :
    kind.Admits v := by
  unfold value? at h
  split at h
  case h_17 => cases h
  all_goals cases hkind
  all_goals first
    | cases h
      constructor
    | obtain ⟨_, -, rfl⟩ := Option.map_eq_some_iff.1 h
      constructor

theorem optionKind?_of_mem : ∀ entry ∈ optionKinds, optionKind? entry.1 = some entry.2 := by
  decide

/-- Options with the same values are the same. -/
theorem Options.ext_value? {options options' : Options}
    (h : ∀ key kind, optionKind? key = some kind → options.value? key = options'.value? key) :
    options = options' := by
  have htext : Function.Injective Toml.Value.string := fun _ _ heq => Toml.Value.string.inj heq
  have hpath : Function.Injective fun path : Path => Toml.Value.string path.text :=
    fun ⟨_⟩ ⟨_⟩ heq => congrArg Path.mk (htext heq)
  have hnames : Function.Injective fun names : List String =>
      Toml.Value.array (names.map .string) :=
    fun _ _ heq => htext.list_map (Toml.Value.array.inj heq)
  have hall : ∀ entry ∈ optionKinds, options.value? entry.1 = options'.value? entry.1 :=
    fun entry hentry => h entry.1 entry.2 (optionKind?_of_mem entry hentry)
  simp only [optionKinds, List.forall_mem_cons, value?, Option.some_inj,
    Toml.Value.boolean.injEq, Toml.Value.string.injEq, (Option.map_injective htext).eq_iff,
    (Option.map_injective hpath).eq_iff, (Option.map_injective hnames).eq_iff] at hall
  cases options
  cases options'
  simp_all

/-! ## Reading values -/

/-- What a reader does with a value of a document: it reads a value of the kind as that of which it
    is the value, and reports any other one. -/
def Reads {α : Type} (kind : OptionKind) (value : α → Toml.Value) (v : Toml.Value)
    (outcome : Except KindMismatch α) : Prop :=
  (∃ a, outcome = .ok a ∧ v = value a ∧ kind.Admits v) ∨
    ∃ m, outcome = .error m ∧ kind.Rejects v m

theorem asBoolean_reads (v : Toml.Value) : Reads .boolean .boolean v (asBoolean v) := by
  cases v with
  | boolean b => exact .inl ⟨b, rfl, rfl, .boolean b⟩
  | _ => exact .inr ⟨_, rfl, .boolean (fun b h => by cases h)⟩

theorem asString_reads (v : Toml.Value) : Reads .text .string v (asString v) := by
  cases v with
  | string content => exact .inl ⟨content, rfl, rfl, .text content⟩
  | _ => exact .inr ⟨_, rfl, .text (fun content h => by cases h)⟩

theorem asPath_reads (v : Toml.Value) :
    Reads .path (fun path : Path => .string path.text) v (asPath v) := by
  cases v with
  | string content => exact .inl ⟨⟨content⟩, rfl, rfl, .path content⟩
  | _ => exact .inr ⟨_, rfl, .path (fun content h => by cases h)⟩

/-- An array is read element by element, up to one that is no text. -/
theorem mapM_asString (items : List Toml.Value) :
    (∃ contents, items.mapM asString = .ok contents ∧ items = contents.map .string) ∨
      ∃ (front : List String) (v : Toml.Value) (back : List Toml.Value),
        items = front.map .string ++ v :: back ∧ NoText v ∧
          items.mapM asString = .error ⟨v, "a string"⟩ := by
  induction items with
  | nil => exact .inl ⟨[], rfl, rfl⟩
  | cons v items ih =>
      rw [List.mapM_cons]
      cases v with
      | string content =>
          rcases ih with ⟨contents, hread, rfl⟩ | ⟨front, v, back, rfl, hv, hread⟩
          · exact .inl ⟨content :: contents, by rw [hread]; rfl, rfl⟩
          · exact .inr ⟨content :: front, v, back, rfl, hv, by rw [hread]; rfl⟩
      | _ => exact .inr ⟨[], _, items, rfl, (fun content h => by cases h), rfl⟩

theorem asStrings_reads (v : Toml.Value) :
    Reads .texts (fun names : List String => .array (names.map .string)) v (asStrings v) := by
  cases v with
  | array items =>
      rcases mapM_asString items with ⟨contents, hread, rfl⟩ | ⟨front, v, back, rfl, hv, hread⟩
      · exact .inl ⟨contents, hread, rfl, .texts contents⟩
      · exact .inr ⟨_, hread, .element front back hv⟩
  | _ => exact .inr ⟨_, rfl, .texts (fun items h => by cases h)⟩

/-! ## Taking one entry -/

/-- What comes of an entry of a document: another key does not count, and an option gets the value
    if that is of its kind. -/
inductive Options.Taking (options : Options) (key : String) (v : Toml.Value) :
    Except KindMismatch Options → Prop
  | ignored (hkind : optionKind? key = none) : Taking options key v (.ok options)
  | given {kind : OptionKind} {after : Options} (hkind : optionKind? key = some kind)
      (hadmits : kind.Admits v) (hvalue : after.value? key = some v)
      (hothers : ∀ other, other ≠ key → after.value? other = options.value? other) :
      Taking options key v (.ok after)
  | rejected {kind : OptionKind} {m : KindMismatch} (hkind : optionKind? key = some kind)
      (hrejects : kind.Rejects v m) : Taking options key v (.error m)

theorem Reads.taking {α : Type} {kind : OptionKind} {value : α → Toml.Value} {v : Toml.Value}
    {outcome : Except KindMismatch α} (hreads : Reads kind value v outcome) {options : Options}
    {key : String} {update : α → Options} (hkind : optionKind? key = some kind)
    (hvalue : ∀ a, (update a).value? key = some (value a))
    (hothers : ∀ a other, other ≠ key → (update a).value? other = options.value? other) :
    options.Taking key v (outcome >>= fun a => pure (update a)) := by
  rcases hreads with ⟨a, rfl, rfl, hadmits⟩ | ⟨m, rfl, hrejects⟩
  · exact .given hkind hadmits (hvalue a) (hothers a)
  · exact .rejected hkind hrejects

theorem Options.set_taking (options : Options) (key : String) (v : Toml.Value) :
    options.Taking key v (options.set key v) := by
  unfold Options.set
  split
  case h_17 => exact .ignored (by simp_all [optionKind?, List.lookup_eq_none_iff, optionKinds])
  -- In each case the reader of the kind is asked, and only the one option is changed.
  all_goals first
    | refine (asBoolean_reads v).taking rfl (fun _ => rfl) fun _ other hother => ?_
    | refine (asString_reads v).taking rfl (fun _ => rfl) fun _ other hother => ?_
    | refine (asPath_reads v).taking rfl (fun _ => rfl) fun _ other hother => ?_
    | refine (asStrings_reads v).taking rfl (fun _ => rfl) fun _ other hother => ?_
  all_goals
    unfold value?
    split <;> first | rfl | exact absurd rfl hother

/-! ## Taking all entries -/

/-- An entry of a document gives no option, or a value of its kind. -/
def FitsOption (entry : String × Toml.Value) : Prop :=
  ∀ kind, optionKind? entry.1 = some kind → kind.Admits entry.2

/-- What comes of the entries of a document. If they all fit, each option has the value that is
given or else the one that it had; otherwise the first entry that does not fit is reported. -/
inductive Options.Overriding (options : Options) (entries : List (String × Toml.Value)) :
    Except KindMismatch Options → Prop
  | given {after : Options} (hfits : ∀ entry ∈ entries, FitsOption entry)
      (hvalues : ∀ key kind, optionKind? key = some kind →
        after.value? key = (entries.lookup key).or (options.value? key)) :
      Overriding options entries (.ok after)
  | rejected {front back : List (String × Toml.Value)} {key : String} {v : Toml.Value}
      {kind : OptionKind} {m : KindMismatch} (hentries : entries = front ++ (key, v) :: back)
      (hfront : ∀ entry ∈ front, FitsOption entry) (hkind : optionKind? key = some kind)
      (hrejects : kind.Rejects v m) : Overriding options entries (.error m)

theorem FitsOption.of_none {key : String} {v : Toml.Value} (h : optionKind? key = none) :
    FitsOption (key, v) := by
  intro kind hkind
  cases h.symm.trans hkind

theorem FitsOption.of_admits {key : String} {v : Toml.Value} {kind : OptionKind}
    (hkind : optionKind? key = some kind) (h : kind.Admits v) : FitsOption (key, v) := by
  intro kind' hkind'
  cases hkind.symm.trans hkind'
  exact h

theorem OptionKind.Rejects.not_fitsOption {key : String} {v : Toml.Value} {kind : OptionKind}
    {m : KindMismatch} (h : kind.Rejects v m) (hkind : optionKind? key = some kind) :
    ¬FitsOption (key, v) :=
  fun hfits => h.not_admits (hfits kind hkind)

/-- An entry comes before the others; no other one has its key. -/
theorem Options.Overriding.cons {options next : Options} {key : String} {v : Toml.Value}
    {entries : List (String × Toml.Value)} {outcome : Except KindMismatch Options}
    (h : next.Overriding entries outcome) (hfits : FitsOption (key, v))
    (hnext : ∀ other kind, optionKind? other = some kind →
      (entries.lookup other).or (next.value? other) =
        (((key, v) :: entries).lookup other).or (options.value? other)) :
    options.Overriding ((key, v) :: entries) outcome := by
  cases h with
  | given hall hvalues =>
      refine .given (List.forall_mem_cons.2 ⟨hfits, hall⟩) fun other kind hkind => ?_
      rw [hvalues other kind hkind, hnext other kind hkind]
  | rejected hentries hfront hkind hrejects =>
      exact .rejected (congrArg ((key, v) :: ·) hentries)
        (List.forall_mem_cons.2 ⟨hfits, hfront⟩) hkind hrejects

theorem Options.foldlM_overriding (options : Options) {entries : List (String × Toml.Value)}
    (hnodup : (entries.map Prod.fst).Nodup) :
    options.Overriding entries
      (entries.foldlM (fun options (key, v) => options.set key v) options) := by
  induction entries generalizing options with
  | nil => exact .given nofun fun _ _ _ => rfl
  | cons entry entries ih =>
      obtain ⟨key, v⟩ := entry
      rw [List.map_cons, List.nodup_cons] at hnodup
      rw [List.foldlM_cons]
      have htaking := options.set_taking key v
      dsimp only
      generalize options.set key v = outcome at htaking ⊢
      cases htaking with
      | ignored hkind =>
          refine (ih options hnodup.2).cons (.of_none hkind) fun other kind hother => ?_
          have hne : other ≠ key := by
            rintro rfl
            cases hkind.symm.trans hother
          rw [List.lookup_cons, beq_false_of_ne hne]
      | @given kind next hkind hadmits hvalue hothers =>
          refine (ih next hnodup.2).cons (.of_admits hkind hadmits) fun other _ _ => ?_
          by_cases heq : other = key
          · subst heq
            have hnone : entries.lookup other = none :=
              Toml.lookup_eq_none_iff_not_mem.2 hnodup.1
            rw [hnone, List.lookup_cons_self, hvalue]
            rfl
          · rw [List.lookup_cons, beq_false_of_ne heq, hothers other heq]
      | rejected hkind hrejects => exact .rejected (List.nil_append _).symm nofun hkind hrejects

/-! ## Documents of options -/

theorem lookup_eq_some_iff_mem {entries : List (String × Toml.Value)}
    (hnodup : (entries.map Prod.fst).Nodup) {key : String} {v : Toml.Value} :
    entries.lookup key = some v ↔ (key, v) ∈ entries := by
  constructor
  · intro h
    obtain ⟨front, back, rfl, -⟩ := List.lookup_eq_some_iff.1 h
    simp
  · intro h
    obtain ⟨front, back, rfl⟩ := List.append_of_mem h
    refine List.lookup_eq_some_iff.2 ⟨front, back, rfl, fun entry hentry => ?_⟩
    rw [List.map_append, List.map_cons] at hnodup
    have hdistinct := (List.nodup_append.1 hnodup).2.2 entry.1
      (List.mem_map.2 ⟨entry, hentry, rfl⟩) key List.mem_cons_self
    simpa using hdistinct.symm

section Documents

variable {source : String} {entries : List (String × Toml.Value)}
  (h : Toml.parse source = some entries)

include h

theorem parseOptions_cases :
    (∃ options, parseOptions source = .ok options ∧
      Options.Overriding {} entries (.ok options)) ∨
    ∃ m, parseOptions source = .error (.config none (.invalid m.message)) ∧
      Options.Overriding {} entries (.error m) := by
  have hover : Options.Overriding {} entries (Options.ofEntries entries) :=
    Options.foldlM_overriding {} (Toml.nodup_keys_of_parse h)
  unfold parseOptions
  rw [h]
  dsimp only
  cases hread : Options.ofEntries entries with
  | ok options => exact .inl ⟨options, rfl, hread ▸ hover⟩
  | error m => exact .inr ⟨m, rfl, hread ▸ hover⟩

/-- The options of a document are those with the values that it gives, or else by default. -/
theorem parseOptions_eq_ok_iff {options : Options} :
    parseOptions source = .ok options ↔ (∀ entry ∈ entries, FitsOption entry) ∧
      ∀ key kind, optionKind? key = some kind →
        options.value? key = (entries.lookup key).or (({} : Options).value? key) := by
  rcases parseOptions_cases h with ⟨read, hread, hover⟩ | ⟨m, hread, hover⟩
  · rw [hread]
    cases hover with
    | given hfits hvalues =>
        constructor
        · rintro heq
          cases heq
          exact ⟨hfits, hvalues⟩
        · rintro ⟨-, hsame⟩
          refine congrArg Except.ok (Options.ext_value? fun key kind hkind => ?_)
          rw [hvalues key kind hkind, hsame key kind hkind]
  · rw [hread]
    refine ⟨nofun, fun ⟨hfits, _⟩ => ?_⟩
    cases hover with
    | @rejected front back key v kind m hentries hfront hkind hrejects =>
        exact absurd (hfits (key, v) (by simp [hentries])) (hrejects.not_fitsOption hkind)

theorem parseOptions_eq_error {e : ConversionError} (herror : parseOptions source = .error e) :
    ∃ front key v back kind m, entries = front ++ (key, v) :: back ∧
      (∀ entry ∈ front, FitsOption entry) ∧ optionKind? key = some kind ∧ kind.Rejects v m ∧
      e = .config none (.invalid m.message) := by
  rcases parseOptions_cases h with ⟨read, hread, hover⟩ | ⟨m, hread, hover⟩
  · cases hread.symm.trans herror
  · cases hread.symm.trans herror
    cases hover with
    | rejected hentries hfront hkind hrejects =>
        exact ⟨_, _, _, _, _, m, hentries, hfront, hkind, hrejects, rfl⟩

theorem exists_parseOptions_eq_ok_iff :
    (∃ options, parseOptions source = .ok options) ↔ ∀ entry ∈ entries, FitsOption entry := by
  constructor
  · rintro ⟨options, hread⟩
    exact ((parseOptions_eq_ok_iff h).1 hread).1
  · intro hfits
    cases hread : parseOptions source with
    | ok options => exact ⟨options, rfl⟩
    | error e =>
        obtain ⟨front, key, v, back, kind, m, hentries, -, hkind, hrejects, -⟩ :=
          parseOptions_eq_error h hread
        exact absurd (hfits (key, v) (by simp [hentries])) (hrejects.not_fitsOption hkind)

end Documents

/-- The options in a file are those of its text. A failure names the file. -/
theorem outcome_loadOptions (path : Path) (w : World) :
    (loadOptions path).outcome w =
      match w.files.readText path with
      | .ok source => ((parseOptions source).mapError (ConversionError.atPath path), w)
      | .error e => (.error (Attempt.failureAt path e), w) := by
  unfold loadOptions
  rw [Attempt.outcome_bind, Attempt.outcome_readText]
  cases w.files.readText path with
  | error e => rfl
  | ok source =>
      dsimp only [Except.mapError]
      cases parseOptions source <;> rfl

/-- What reading the options of a document comes to. -/
structure OverridesDefaults (source : String) (entries : List (String × Toml.Value)) : Prop where
  nodup_keys : (entries.map Prod.fst).Nodup
  /-- The keys stand where they take their place in the document. That is where they are first
      mentioned, if no table has a header of its own behind that of a table inside it. -/
  keys_eq : ∃ statements, Toml.statementsOf source = some statements ∧
    entries.map Prod.fst = Toml.keyOrder (Toml.mentionsIn statements) ∧
    (Toml.OwnHeadersFirst (Toml.mentionsIn statements) →
      entries.map Prod.fst = ((Toml.mentionsIn statements).map Toml.Mention.key).eraseDups)
  /-- It succeeds if each option that is given has a value of its kind. -/
  exists_iff : (∃ options, parseOptions source = .ok options) ↔
    ∀ entry ∈ entries, FitsOption entry
  /-- An option has the value that is given, or else the one that it has by default. -/
  value?_eq : ∀ options, parseOptions source = .ok options →
    ∀ key kind, optionKind? key = some kind →
      options.value? key = (entries.lookup key).or (({} : Options).value? key)
  /-- The first value that is not of its kind is reported. -/
  error_eq : ∀ e, parseOptions source = .error e →
    ∃ front key v back kind m, entries = front ++ (key, v) :: back ∧
      (∀ entry ∈ front, FitsOption entry) ∧ optionKind? key = some kind ∧ kind.Rejects v m ∧
      e = .config none (.invalid m.message)
  /-- Neither the order of the options nor other keys count. -/
  eq_ok_congr : ∀ source' entries', Toml.parse source' = some entries' →
    (∀ key kind v, optionKind? key = some kind → ((key, v) ∈ entries ↔ (key, v) ∈ entries')) →
    ∀ options, parseOptions source = .ok options ↔ parseOptions source' = .ok options
  /-- From a file that can be read come the same options or the same failure, with the path. -/
  loadOptions_eq : ∀ path (w : World), w.files.readText path = .ok source →
    (loadOptions path).outcome w =
      ((parseOptions source).mapError (ConversionError.atPath path), w)

theorem parseOptions_congr {source source' : String} {entries entries' : List (String × Toml.Value)}
    (h : Toml.parse source = some entries) (h' : Toml.parse source' = some entries')
    (hsame : ∀ key kind v, optionKind? key = some kind →
      ((key, v) ∈ entries ↔ (key, v) ∈ entries')) (options : Options) :
    parseOptions source = .ok options ↔ parseOptions source' = .ok options := by
  have hfits : (∀ entry ∈ entries, FitsOption entry) ↔ ∀ entry ∈ entries', FitsOption entry := by
    constructor
    · exact fun hall entry hentry kind hkind =>
        hall entry ((hsame entry.1 kind entry.2 hkind).2 hentry) kind hkind
    · exact fun hall entry hentry kind hkind =>
        hall entry ((hsame entry.1 kind entry.2 hkind).1 hentry) kind hkind
  have hlookup (key : String) (kind : OptionKind) (hkind : optionKind? key = some kind) :
      entries.lookup key = entries'.lookup key := by
    ext v
    rw [lookup_eq_some_iff_mem (Toml.nodup_keys_of_parse h), hsame key kind v hkind,
      lookup_eq_some_iff_mem (Toml.nodup_keys_of_parse h')]
  rw [parseOptions_eq_ok_iff h, parseOptions_eq_ok_iff h', hfits]
  refine and_congr_right fun _ => forall₃_congr fun key kind hkind => ?_
  rw [hlookup key kind hkind]

/-- **Options that are given override the defaults.** A document can be read if each option in it
has a value of its kind. Then just the options that it gives differ from the defaults, whatever
their order and whatever else it holds. Otherwise the first value that is not of its kind is
reported, in the order of the keys; the same holds for a file. -/
theorem parseOptions_overrides {source : String} {entries : List (String × Toml.Value)}
    (h : Toml.parse source = some entries) : OverridesDefaults source entries where
  nodup_keys := Toml.nodup_keys_of_parse h
  keys_eq := by
    obtain ⟨statements, hstatements, hkeys⟩ := Toml.keys_of_parse h
    exact ⟨statements, hstatements, hkeys, fun hfirst =>
      hkeys.trans (Toml.keyOrder_eq_eraseDups hfirst)⟩
  exists_iff := exists_parseOptions_eq_ok_iff h
  value?_eq _ hread := ((parseOptions_eq_ok_iff h).1 hread).2
  error_eq _ herror := parseOptions_eq_error h herror
  eq_ok_congr _ _ h' hsame := parseOptions_congr h h' hsame
  loadOptions_eq path w hread := by rw [outcome_loadOptions, hread]

/-- Options between other keys, and a table that is no option. -/
theorem parseOptions_overrides_some :
    let source := "a.debug = 1\n'title' = \"A\"\ninclude_packages = ['b']\n[c]\ndebug = 2"
    ∃ entries, Toml.parse source = some entries ∧
      entries.map Prod.fst = ["a", "title", "include_packages", "c"] ∧
      OverridesDefaults source entries ∧
      parseOptions source = .ok { title := some "A", packages := some ["b"] } := by
  intro source
  have hkeys : (Toml.parse source).map (·.map Prod.fst) =
      some ["a", "title", "include_packages", "c"] := by decide +kernel
  obtain ⟨entries, hparse, hkeys⟩ := Option.map_eq_some_iff.1 hkeys
  have hread : parseOptions source = .ok { title := some "A", packages := some ["b"] } := by
    decide +kernel
  exact ⟨entries, hparse, hkeys, parseOptions_overrides hparse, hread⟩

/-- The first mention of a key does not always count. Here `debug` is mentioned before `title`, and
both are given tables, but what is reported is what is wrong with `title`. -/
theorem parseOptions_reports_later :
    let source := "[debug.x]\n[title]\n[debug]\n"
    ((Toml.statementsOf source).map fun statements =>
      ((Toml.mentionsIn statements).map Toml.Mention.key).eraseDups) = some ["debug", "title"] ∧
    ∃ entries v, Toml.parse source = some entries ∧ entries.lookup "debug" = some v ∧
      optionKind? "debug" = some .boolean ∧ OptionKind.boolean.Rejects v ⟨v, "a boolean"⟩ ∧
      parseOptions source =
        .error (.config none (.invalid "invalid type: map, expected a string")) ∧
      parseOptions source ≠
        .error (.config none (.invalid (KindMismatch.message ⟨v, "a boolean"⟩))) := by
  intro source
  have hmentions : ((Toml.statementsOf source).map fun statements =>
      ((Toml.mentionsIn statements).map Toml.Mention.key).eraseDups) =
        some ["debug", "title"] := by decide +kernel
  have hfound : ((Toml.parse source).bind (·.lookup "debug")).map describe = some "map" := by
    decide +kernel
  obtain ⟨v, hv, hdescribe⟩ := Option.map_eq_some_iff.1 hfound
  obtain ⟨entries, hparse, hlookup⟩ := Option.bind_eq_some_iff.1 hv
  have hrejects : OptionKind.boolean.Rejects v ⟨v, "a boolean"⟩ := by
    refine .boolean fun b heq => ?_
    rw [heq] at hdescribe
    cases b <;> exact absurd hdescribe (by decide +kernel)
  have hread : parseOptions source =
      .error (.config none (.invalid "invalid type: map, expected a string")) := by
    decide +kernel
  refine ⟨hmentions, entries, v, hparse, hlookup, rfl, hrejects, hread, ?_⟩
  have hmessage : KindMismatch.message ⟨v, "a boolean"⟩ =
      "invalid type: map, expected a boolean" := by
    rw [KindMismatch.message, hdescribe]
    rfl
  rw [hread, hmessage]
  decide +kernel

end HtmlToLatex
