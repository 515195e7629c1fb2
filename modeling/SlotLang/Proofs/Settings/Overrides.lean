import SlotLang.Proofs.Text.Utf8
import SlotLang.Proofs.Toml.Assignments
import SlotLang.Settings.Source

/-!
# Settings from lines

A settings text of lines that assign integers overrides the settings that it names and no others.
It is refused if a line names no setting or gives a negative value. The first such line is blamed,
with the bytes of its key or of its value, whatever stands before and after it.
-/

namespace SlotLang

open Text

/-! ## Cutting a text -/

/-- The bytes of a text that a span covers. Spans count bytes, and so is what they cover said in
bytes. -/
def Span.cut (source : String) (span : Span) : List UInt8 :=
  ((bytes source.toList).take span.stop).drop span.start

/-- The span of a word of a text covers the bytes of the word, as a text has its bytes part by
part. -/
theorem Span.cut_word {source : String} {front word back : List Char}
    (parts : source.toList = front ++ (word ++ back)) :
    Span.cut source ⟨byteLength front, byteLength front + byteLength word⟩ = bytes word := by
  rw [cut, parts, bytes_append, bytes_append, ← length_bytes, ← length_bytes,
    List.take_length_add_append, List.drop_left, List.take_left]

/-! ## Settings by name -/

namespace Setting

/-- Every setting is found by its key. -/
theorem ofKey?_key (setting : Setting) : ofKey? setting.key = some setting := by
  cases setting <;> decide

/-- A setting is found by its key. -/
theorem ofKey?_eq_some_iff {name : String} {setting : Setting} :
    ofKey? name = some setting ↔ setting.key = name := by
  constructor
  · intro found
    simpa using List.find?_some found
  · rintro rfl
    exact ofKey?_key setting

/-- A name by which no setting is found is the key of none. -/
theorem ofKey?_eq_none_iff {name : String} :
    ofKey? name = none ↔ ¬∃ setting : Setting, setting.key = name := by
  rw [Option.eq_none_iff_forall_ne_some, not_exists]
  exact forall_congr' fun setting => not_congr ofKey?_eq_some_iff

/-- Giving one setting a value leaves the others alone. This is checked for each pair of
settings. -/
theorem get_set (setting changed : Setting) (n : Nat) (settings : Settings) :
    setting.get (changed.set n settings) =
      if changed = setting then n else setting.get settings := by
  cases setting <;> cases changed <;> rfl

/-- Settings are known by their values: nothing else is in them. -/
theorem eq_of_get {settings other : Settings}
    (same : ∀ setting : Setting, setting.get settings = setting.get other) : settings = other := by
  obtain ⟨_, _, _, _, _, _⟩ := settings
  obtain ⟨_, _, _, _, _, _⟩ := other
  rw [Settings.mk.injEq]
  exact ⟨same maxCallDepth, same stackRedZone, same stackGrowSize, same globalCapacity,
    same localCapacity, same objectCapacity⟩

end Setting

namespace Settings

open Toml Toml.Assignment

/-! ## Lines -/

/-- A line that names a setting. Its value may be any integer. -/
def Known (line : Assignment) : Prop :=
  ∃ setting : Setting, setting.key = line.key

/-- A line that gives a setting a value that it can have. Settings are natural numbers, so only a
negative value is none. -/
def Sound (line : Assignment) : Prop :=
  Known line ∧ 0 ≤ line.value

/-- The settings with what a sound line gives. A line that names no setting changes nothing, but is
never applied either. -/
def override (settings : Settings) (line : Assignment) : Settings :=
  match Setting.ofKey? line.key with
  | none => settings
  | some setting => setting.set line.value.toInt.toNat settings

/-- What is wrong with a line that is not sound, in front of other lines. The key is blamed before
the value. -/
def offence (line : Assignment) (rest : List Assignment) : Offence :=
  match Setting.ofKey? line.key with
  | none => .unknownKey line.key (line.entry rest).1.extent
  | some _ => .negative line.value.toInt (line.valueExtent rest)

/-- A sound line is applied, and the entries after it are looked at. -/
theorem applyEntries_sound {line : Assignment} (sound : Sound line) (rest : List Assignment)
    (more : Entries) (settings : Settings) :
    applyEntries (line.entry rest :: more) settings =
      applyEntries more (override settings line) := by
  obtain ⟨⟨setting, named⟩, nonNegative⟩ := sound
  rw [Int64.le_iff_toInt_le, Int64.toInt_zero] at nonNegative
  have found := Setting.ofKey?_eq_some_iff.mpr named
  simp only [applyEntries, entry, found, number, override, if_neg (Int.not_lt.mpr nonNegative)]
  rfl

/-- Another line is refused, and the entries after it are not looked at. -/
theorem applyEntries_offence {line : Assignment} (unsound : ¬Sound line) (rest : List Assignment)
    (more : Entries) (settings : Settings) :
    applyEntries (line.entry rest :: more) settings = .error (offence line rest) := by
  cases found : Setting.ofKey? line.key with
  | none => simp only [applyEntries, entry, found, offence]
  | some setting =>
    have known : Known line := ⟨setting, Setting.ofKey?_eq_some_iff.mp found⟩
    have negative : ¬0 ≤ line.value := fun nonNegative => unsound ⟨known, nonNegative⟩
    rw [Int64.le_iff_toInt_le, Int64.toInt_zero, Int.not_le] at negative
    simp only [applyEntries, entry, found, number, offence, if_pos negative]
    rfl

/-! ## Texts -/

/-- Sound lines are applied one after the other, by induction on the lines. -/
theorem applyEntries_entries {lines : List Assignment} (sound : ∀ line ∈ lines, Sound line)
    (settings : Settings) :
    applyEntries (entries lines) settings = .ok (lines.foldl override settings) := by
  induction lines generalizing settings with
  | nil => rfl
  | cons line rest inductionHypothesis =>
    rw [entries, applyEntries_sound (sound line List.mem_cons_self),
      inductionHypothesis fun other member => sound other (List.mem_cons_of_mem line member)]
    rfl

/-- Nothing is accepted with a line that is not sound, wherever it stands among the lines. -/
theorem sound_of_applyEntries {lines : List Assignment} {settings result : Settings}
    (applied : applyEntries (entries lines) settings = .ok result) :
    ∀ line ∈ lines, Sound line := by
  induction lines generalizing settings with
  | nil => simp
  | cons line rest inductionHypothesis =>
    by_cases sound : Sound line
    · rw [entries, applyEntries_sound sound] at applied
      exact List.forall_mem_cons.mpr ⟨sound, inductionHypothesis applied⟩
    · rw [entries, applyEntries_offence sound] at applied
      cases applied

/-- The first line that is not sound is blamed. Those before it are applied, and those after it are
not looked at. -/
theorem applyEntries_first {before after : List Assignment} {line : Assignment}
    (sound : ∀ earlier ∈ before, Sound earlier) (unsound : ¬Sound line) (settings : Settings) :
    applyEntries (entries (before ++ line :: after)) settings = .error (offence line after) := by
  induction before generalizing settings with
  | nil => exact applyEntries_offence unsound after _ settings
  | cons first before inductionHypothesis =>
    rw [List.cons_append, entries, applyEntries_sound (sound first List.mem_cons_self),
      inductionHypothesis fun other member => sound other (List.mem_cons_of_mem first member)]

/-- A setting after a line has the value of the line if the line names it, and the value it had if
not. -/
theorem get_override (setting : Setting) (settings : Settings) (line : Assignment) :
    setting.get (override settings line) =
      if setting.key = line.key then line.value.toInt.toNat else setting.get settings := by
  cases found : Setting.ofKey? line.key with
  | none =>
    have unnamed : setting.key ≠ line.key := fun same =>
      Setting.ofKey?_eq_none_iff.mp found ⟨setting, same⟩
    rw [override, found, if_neg unnamed]
  | some changed =>
    have named := Setting.ofKey?_eq_some_iff.mp found
    have same : changed = setting ↔ setting.key = line.key := by
      rw [← Setting.ofKey?_eq_some_iff, found, Option.some_inj]
    simp only [override, found, Setting.get_set, same]

/-- Lines that do not name a setting leave it alone. -/
theorem get_foldl_override_of_unnamed {setting : Setting} {lines : List Assignment}
    (unnamed : ∀ line ∈ lines, line.key ≠ setting.key) (settings : Settings) :
    setting.get (lines.foldl override settings) = setting.get settings := by
  induction lines generalizing settings with
  | nil => rfl
  | cons line rest inductionHypothesis =>
    have different := unnamed line List.mem_cons_self
    rw [List.foldl_cons,
      inductionHypothesis fun other member => unnamed other (List.mem_cons_of_mem line member),
      get_override, if_neg (Ne.symm different)]

/-- Among lines with different keys the one that names a setting gives its value: no other line
names it again. -/
theorem get_foldl_override_of_named {setting : Setting} {lines : List Assignment}
    (distinct : (lines.map key).Nodup) {line : Assignment} (member : line ∈ lines)
    (named : setting.key = line.key) (settings : Settings) :
    setting.get (lines.foldl override settings) = line.value.toInt.toNat := by
  induction lines generalizing settings with
  | nil => cases member
  | cons first rest inductionHypothesis =>
    rw [List.map_cons, List.nodup_cons] at distinct
    rw [List.foldl_cons]
    obtain rfl | later := List.mem_cons.mp member
    · have unnamed : ∀ other ∈ rest, other.key ≠ setting.key := fun other among same =>
        distinct.1 (List.mem_map.mpr ⟨other, among, same.trans named⟩)
      rw [get_foldl_override_of_unnamed unnamed, get_override, if_pos named]
    · exact inductionHypothesis distinct.2 later _

/-- The order of lines with different keys does not matter, since settings are known by their values
and each is given by one line. -/
theorem foldl_override_perm {lines reordered : List Assignment}
    (distinct : (lines.map key).Nodup) (permuted : reordered.Perm lines) (settings : Settings) :
    reordered.foldl override settings = lines.foldl override settings := by
  have distinct' : (reordered.map key).Nodup := (permuted.map key).nodup_iff.mpr distinct
  apply Setting.eq_of_get
  intro setting
  by_cases named : ∃ line ∈ lines, setting.key = line.key
  · obtain ⟨line, member, same⟩ := named
    rw [get_foldl_override_of_named distinct member same,
      get_foldl_override_of_named distinct' (permuted.mem_iff.mpr member) same]
  · have unnamed : ∀ line ∈ lines, line.key ≠ setting.key := fun line member same =>
      named ⟨line, member, same.symm⟩
    rw [get_foldl_override_of_unnamed unnamed,
      get_foldl_override_of_unnamed fun line member => unnamed line (permuted.mem_iff.mp member)]

/-- The text of lines. -/
def document (lines : List Assignment) : String :=
  String.ofList (join lines)

/-- A document of integers is read line by line and then applied to the defaults. No key may come
twice, for the text is refused by its format then, before any setting is looked at. -/
theorem decode_document {lines : List Assignment} (distinct : (lines.map key).Nodup) :
    decode (document lines) =
      (applyEntries (entries lines) default).mapError (·.toHostError (join lines)) := by
  rw [decode, document, String.toList_ofList, ofText, read?_join distinct]

/-- Sound lines are accepted, and no others are. The settings are then the defaults with what the
lines give. -/
theorem decode_document_eq_ok_iff {lines : List Assignment} (distinct : (lines.map key).Nodup)
    {settings : Settings} :
    decode (document lines) = .ok settings ↔
      (∀ line ∈ lines, Sound line) ∧ lines.foldl override default = settings := by
  rw [decode_document distinct]
  constructor
  · intro decoded
    cases applied : applyEntries (entries lines) default with
    | error why =>
      rw [applied] at decoded
      cases decoded
    | ok result =>
      rw [applied] at decoded
      cases decoded
      have sound := sound_of_applyEntries applied
      rw [applyEntries_entries sound] at applied
      exact ⟨sound, Except.ok.inj applied⟩
  · rintro ⟨sound, rfl⟩
    rw [applyEntries_entries sound]
    rfl

/-- Lines in front of other lines, each with the line feed after it. -/
def front (before : List Assignment) : List Char :=
  before.flatMap fun line => line.text ++ ['\n']

/-- Lines in front of other lines take up the text before them. -/
theorem join_append (before : List Assignment) (line : Assignment) (after : List Assignment) :
    join (before ++ line :: after) = front before ++ join (line :: after) := by
  induction before with
  | nil => rfl
  | cons first before inductionHypothesis =>
    have next : following (before ++ line :: after) = '\n' :: join (before ++ line :: after) := by
      cases before <;> rfl
    rw [List.cons_append, join_cons, next, inductionHypothesis, front, front, List.flatMap_cons]
    simp

/-! ## Blame -/

/-- The settings as a refusal lists them. -/
def choices : String :=
  "`max_call_depth`, `stack_red_zone`, `stack_grow_size`, `global_capacity`, " ++
    "`local_capacity`, `object_capacity`"

/-- The keys that a refusal lists are those of all settings, in the order in which they are
declared. -/
theorem intercalate_keys :
    ", ".intercalate (Setting.all.map fun setting => "`" ++ setting.key ++ "`") = choices := by
  decide

/-- An offence in a word of a text points to the word, from its first byte to behind its last. -/
theorem Offence.span_word {offence : Offence} {source front word back : List Char}
    (extent : offence.extent? = some ⟨word ++ back, back⟩)
    (parts : source = front ++ (word ++ back)) :
    offence.span source = some ⟨byteLength front, byteLength front + byteLength word⟩ := by
  simp only [span, extent, Option.map_some, parts, byteLength_append, Option.some_inj,
    Span.mk.injEq]
  omega

section Refusal

variable {before after : List Assignment} {line : Assignment}
  (distinct : ((before ++ line :: after).map key).Nodup)
  (sound : ∀ earlier ∈ before, Sound earlier)

include distinct sound

/-- A text is refused for its first line that is not sound, with a span over the word at fault.
Which word that is depends on the offence. -/
theorem decode_document_first (unsound : ¬Sound line) {ahead word back : List Char}
    (parts : join (before ++ line :: after) = ahead ++ (word ++ back))
    (extent : (offence line after).extent? = some ⟨word ++ back, back⟩) :
    ∃ span, decode (document (before ++ line :: after)) =
        .error (.config (offence line after).message (some span)) ∧
      span.cut (document (before ++ line :: after)) = bytes word ∧
      span.start = byteLength ahead := by
  refine ⟨_, ?_, Span.cut_word (by rw [document, String.toList_ofList, parts]), rfl⟩
  rw [decode_document distinct, applyEntries_first sound unsound, ← Offence.span_word extent parts]
  rfl

/-- A key that is no setting's is named, and pointed to. -/
theorem decode_document_unknown (unknown : ¬Known line) :
    ∃ span, decode (document (before ++ line :: after)) =
        .error (.config ("unknown field `" ++ line.key ++ "`, expected one of " ++ choices)
          (some span)) ∧
      span.cut (document (before ++ line :: after)) = bytes line.key.toList ∧
      span.start = byteLength (front before) := by
  have parts : join (before ++ line :: after) =
      front before ++ (line.key.toList ++ line.afterKey after) := by
    rw [join_append, join_cons_eq]
  have blame : offence line after = .unknownKey line.key (line.keyExtent after) := by
    rw [offence, Setting.ofKey?_eq_none_iff.mpr unknown]
    rfl
  have extent : (offence line after).extent? =
      some ⟨line.key.toList ++ line.afterKey after, line.afterKey after⟩ := by
    rw [blame, ← join_cons_eq]
    rfl
  have message : (offence line after).message =
      "unknown field `" ++ line.key ++ "`, expected one of " ++ choices := by
    rw [blame, ← intercalate_keys]
    rfl
  rw [← message]
  exact decode_document_first distinct sound (fun sound => unknown sound.1) parts extent

/-- A negative value is named, and pointed to. -/
theorem decode_document_negative (known : Known line) (negative : line.value < 0) :
    ∃ span, decode (document (before ++ line :: after)) =
        .error (.config ("invalid value: integer `" ++ decimal line.value ++ "`, expected usize")
          (some span)) ∧
      span.cut (document (before ++ line :: after)) = bytes (decimal line.value).toList ∧
      span.start = byteLength (front before ++ (line.key.toList ++ " = ".toList)) := by
  have parts : join (before ++ line :: after) =
      (front before ++ (line.key.toList ++ " = ".toList)) ++
        ((decimal line.value).toList ++ following after) := by
    rw [join_append, join_cons, text]
    simp only [List.append_assoc]
  obtain ⟨setting, named⟩ := known
  have blame : offence line after = .negative line.value.toInt (line.valueExtent after) := by
    rw [offence, Setting.ofKey?_eq_some_iff.mpr named]
  have unsound : ¬Sound line := fun sound => absurd negative (Int64.not_lt.mpr sound.2)
  have blamed := decode_document_first distinct sound unsound parts (blame ▸ rfl)
  rw [blame] at blamed
  exact blamed

end Refusal

/-- If not all lines are sound, there is a first one that is not. By induction on the lines. -/
theorem exists_first_unsound {lines : List Assignment} (refused : ¬∀ line ∈ lines, Sound line) :
    ∃ before line after, lines = before ++ line :: after ∧
      (∀ earlier ∈ before, Sound earlier) ∧ ¬Sound line := by
  classical
  cases found : lines.find? fun line => !decide (Sound line) with
  | none => exact absurd (by simpa using found) refused
  | some line =>
    obtain ⟨unsound, before, after, split, earlier⟩ := List.find?_eq_some_iff_append.mp found
    exact ⟨before, line, after, split, by simpa using earlier, by simpa using unsound⟩

/-! ## The text overrides what it names -/

/-- A settings text of lines that assign integers of 64 bits to different bare keys. It is accepted
just if every key is that of a setting and no value is negative. Then each setting that is named has
the value given for it and every other one its default, and so the order of the lines does not
matter. Otherwise the first line that is not sound decides what is said: an unknown key is named and
the span covers the key, or else the negative value is named and the span covers the value, in that
line and as they are written there. -/
theorem text_overrides_what_it_names (lines : List Assignment)
    (distinct : (lines.map key).Nodup) :
    ((∃ settings, decode (document lines) = .ok settings) ↔ ∀ line ∈ lines, Sound line) ∧
    (∀ settings, decode (document lines) = .ok settings →
      (∀ line ∈ lines, ∀ setting : Setting, setting.key = line.key →
        (setting.get settings : Int) = line.value.toInt) ∧
      (∀ setting : Setting, (∀ line ∈ lines, line.key ≠ setting.key) →
        setting.get settings = setting.get default) ∧
      ∀ reordered, reordered.Perm lines → decode (document reordered) = .ok settings) ∧
    ((¬∀ line ∈ lines, Sound line) → ∃ before line after, lines = before ++ line :: after ∧
      (∀ earlier ∈ before, Sound earlier) ∧ ¬Sound line ∧
      (¬Known line → ∃ span, decode (document lines) =
          .error (.config ("unknown field `" ++ line.key ++ "`, expected one of " ++ choices)
            (some span)) ∧
        span.cut (document lines) = bytes line.key.toList ∧
        span.start = byteLength (front before)) ∧
      (Known line → line.value < 0 ∧ ∃ span, decode (document lines) =
          .error (.config ("invalid value: integer `" ++ decimal line.value ++ "`, expected usize")
            (some span)) ∧
        span.cut (document lines) = bytes (decimal line.value).toList ∧
        span.start = byteLength (front before ++ (line.key.toList ++ " = ".toList)))) := by
  refine ⟨?_, ?_, ?_⟩
  · simp only [decode_document_eq_ok_iff distinct, exists_and_left, exists_eq', and_true]
  · intro settings decoded
    obtain ⟨sound, rfl⟩ := (decode_document_eq_ok_iff distinct).mp decoded
    refine ⟨?_, fun setting unnamed => get_foldl_override_of_unnamed unnamed default, ?_⟩
    · intro line member setting named
      have nonNegative := Int64.le_iff_toInt_le.mp (sound line member).2
      rw [get_foldl_override_of_named distinct member named]
      exact Int.toNat_of_nonneg nonNegative
    · intro reordered permuted
      have distinct' : (reordered.map key).Nodup := (permuted.map key).nodup_iff.mpr distinct
      exact (decode_document_eq_ok_iff distinct').mpr
        ⟨fun line member => sound line (permuted.mem_iff.mp member),
          foldl_override_perm distinct permuted default⟩
  · intro refused
    obtain ⟨before, line, after, rfl, sound, unsound⟩ := exists_first_unsound refused
    refine ⟨before, line, after, rfl, sound, unsound, decode_document_unknown distinct sound, ?_⟩
    intro known
    have negative : line.value < 0 :=
      Int64.not_le.mp fun nonNegative => unsound ⟨known, nonNegative⟩
    exact ⟨negative, decode_document_negative distinct sound known negative⟩

/-- A negative value between a sound line and an unknown key. -/
theorem text_overrides_what_it_names_negative :
    let first : Assignment := ⟨"local_capacity", 3, by decide, by decide⟩
    let second : Assignment := ⟨"object_capacity", -3, by decide, by decide⟩
    let third : Assignment := ⟨"depth", 1, by decide, by decide⟩
    let lines := [first, second, third]
    (lines.map key).Nodup ∧ (¬∀ line ∈ lines, Sound line) ∧ ∃ span,
      decode (document lines) =
        .error (.config "invalid value: integer `-3`, expected usize" (some span)) ∧
      span.cut (document lines) = bytes "-3".toList ∧ span.start = 37 := by
  intro first second third lines
  have distinct : (lines.map key).Nodup := by decide
  have sound : Sound first := ⟨⟨.localCapacity, rfl⟩, by decide⟩
  have known : Known second := ⟨.objectCapacity, rfl⟩
  have unsound : ¬Sound second := fun sound => absurd sound.2 (by decide)
  have refused : ¬∀ line ∈ lines, Sound line := fun all => unsound (all second (by simp [lines]))
  refine ⟨distinct, refused, ?_⟩
  obtain ⟨before, line, after, split, earlier, blamed, -, negative⟩ :=
    (text_overrides_what_it_names lines distinct).2.2 refused
  -- The blamed line is not the first, which is sound, and not the third, as the second is not.
  match before, split with
  | [], split =>
    obtain rfl : first = line := (List.cons.inj split).1
    exact absurd sound blamed
  | [_], split =>
    obtain rfl : second = line := (List.cons.inj (List.cons.inj split).2).1
    obtain ⟨rfl, -⟩ : first = _ ∧ _ := List.cons.inj split
    obtain ⟨-, span, decoded, cut, start⟩ := negative known
    exact ⟨span, decoded, cut, start.trans (by decide)⟩
  | _ :: other :: _, split =>
    obtain rfl : second = other := (List.cons.inj (List.cons.inj split).2).1
    exact absurd (earlier second (by simp)) unsound

end Settings

end SlotLang
