import SasCore.Fad.Records
import SasCore.Lib.PyText

set_option autoImplicit false
set_option linter.unusedSectionVars false

namespace SasCore.Fad

variable {K : Type} [Field K] [DecidableEq K]

section Segments

theorem split_slash_whole (text : String) (whole : '/' ∉ text.toList) : splitSlash text = [text] := by
  rw [splitSlash, List.splitOn_eq_singleton whole, List.map_cons, List.map_nil, String.ofList_toList]

theorem split_slash_cut (first rest : String) (whole : '/' ∉ first.toList) :
    splitSlash (first ++ "/" ++ rest) = first :: splitSlash rest := by
  have chars : (first ++ "/" ++ rest).toList = first.toList ++ '/' :: rest.toList := by simp
  rw [splitSlash, chars, List.splitOn_append_cons_self_of_not_mem whole, List.map_cons, String.ofList_toList]
  rfl

theorem split_slash_join (text : String) : String.intercalate "/" (splitSlash text) = text := by
  have segments : (splitSlash text).map String.toList = text.toList.splitOn '/' := by
    rw [splitSlash, List.map_map]
    exact List.map_id'' (fun segment => String.toList_ofList) _
  rw [← String.toList_inj, String.toList_intercalate, segments]
  exact List.intercalate_splitOn '/'

theorem split_slash_nonempty (text : String) : splitSlash text ≠ [] := by
  simp [splitSlash]

-- A text is one segment, or it has a first segment and a rest.
theorem segments_cases (text : String) :
    '/' ∉ text.toList ∨ ∃ first rest : String, '/' ∉ first.toList ∧ text = first ++ "/" ++ rest := by
  by_cases found : '/' ∈ text.toList
  · obtain ⟨front, back, split, whole⟩ := List.eq_append_cons_of_mem found
    refine .inr ⟨String.ofList front, String.ofList back, by rwa [String.toList_ofList], ?_⟩
    rw [← String.toList_inj, split]
    simp
  · exact .inl found

end Segments

section Names

-- rewrite_esc_sensor_id on the id of a record, an error where a value that is no text has no split.
def givenId (id : Json K) : Except String (Option String) :=
  if !id.truthy then .ok none
  else
    match id with
    | .text text => .ok (some text)
    | _ => .error "AttributeError"

def escSensorId (adminId : String) (id : Json K) : Except String String := (givenId id).map (rewriteEscSensorId adminId)

-- An id that is missing or empty, or a text.
def idTaken (id : Json K) : Bool :=
  match id with
  | .text _ => true
  | other => !other.truthy

-- What of a zone's id is kept: the segments after its owner.
inductive ZoneName : Json K → String → Prop where
  | owned (owner rest : String) (whole : '/' ∉ owner.toList) : ZoneName (.text ("zone/ppa/" ++ owner ++ "/" ++ rest)) rest
  | other (id : Json K) (taken : idTaken id = true)
      (unowned : ∀ owner rest : String, '/' ∉ owner.toList → id ≠ .text ("zone/ppa/" ++ owner ++ "/" ++ rest)) : ZoneName id "0"

-- What of a sensor's id is kept: the segments after its owner, its only segment, or an id of another kind.
inductive SensorName : Json K → String → Prop where
  | unnamed (id : Json K) (empty : id.truthy = false) : SensorName id "0"
  | owned (owner rest : String) (whole : '/' ∉ owner.toList) : SensorName (.text ("esc_sensor/" ++ owner ++ "/" ++ rest)) rest
  | bare (name : String) (whole : '/' ∉ name.toList) : SensorName (.text ("esc_sensor/" ++ name)) name
  | foreign (text : String) (filled : text ≠ "") (elsewhere : ∀ rest, text ≠ "esc_sensor/" ++ rest) : SensorName (.text text) text

def ZonesAlike (first second : Json K) : Prop := ∃ name, ZoneName first name ∧ ZoneName second name

def SensorsAlike (first second : Json K) : Prop := ∃ name, SensorName first name ∧ SensorName second name

theorem prefixed_filled (start rest : String) (filled : start ≠ "") : start ++ rest ≠ "" := by
  intro empty
  have parts : start.toList ++ rest.toList = [] := by
    rw [← String.toList_append, empty]
    rfl
  exact filled (String.toList_eq_nil_iff.mp (List.append_eq_nil_iff.mp parts).1)

theorem text_truthy (text : String) (filled : text ≠ "") : (Json.text text : Json K).truthy = true := by
  simpa [Json.truthy] using filled

theorem given_text (text : String) (filled : text ≠ "") : givenId (.text text : Json K) = .ok (some text) := by
  rw [givenId, text_truthy text filled]
  rfl

end Names

section Sensors

variable (adminId : String) (id : Json K) (name : String)

theorem sensor_owned (owner rest : String) (whole : '/' ∉ owner.toList) :
    rewriteEscSensorId adminId (some ("esc_sensor/" ++ owner ++ "/" ++ rest)) = "esc_sensor/" ++ adminId ++ "/" ++ rest := by
  have filled : "esc_sensor/" ++ owner ++ "/" ++ rest ≠ "" := by
    rw [String.append_assoc, String.append_assoc]
    exact prefixed_filled _ _ (by decide)
  have parts : "esc_sensor/" ++ owner ++ "/" ++ rest = "esc_sensor" ++ "/" ++ (owner ++ "/" ++ rest) := by
    simp [String.append_assoc]
  have segments : splitSlash ("esc_sensor/" ++ owner ++ "/" ++ rest) = "esc_sensor" :: owner :: splitSlash rest := by
    rw [parts, split_slash_cut "esc_sensor" _ (by decide), split_slash_cut owner rest whole]
  have joined := split_slash_join rest
  obtain ⟨third, others, shape⟩ := List.exists_cons_of_ne_nil (split_slash_nonempty rest)
  rw [shape] at segments joined
  simp only [rewriteEscSensorId, if_neg filled, segments, if_true, joined]

theorem sensor_bare (own : String) (whole : '/' ∉ own.toList) :
    rewriteEscSensorId adminId (some ("esc_sensor/" ++ own)) = "esc_sensor/" ++ adminId ++ "/" ++ own := by
  have filled : "esc_sensor/" ++ own ≠ "" := prefixed_filled _ _ (by decide)
  have segments : splitSlash ("esc_sensor/" ++ own) = ["esc_sensor", own] := by
    rw [show "esc_sensor/" ++ own = "esc_sensor" ++ "/" ++ own from by simp, split_slash_cut "esc_sensor" own (by decide),
      split_slash_whole own whole]
  simp only [rewriteEscSensorId, if_neg filled, segments, if_true]

theorem sensor_foreign (text : String) (filled : text ≠ "") (elsewhere : ∀ rest, text ≠ "esc_sensor/" ++ rest) :
    rewriteEscSensorId adminId (some text) = "esc_sensor/" ++ adminId ++ "/" ++ text := by
  rcases segments_cases text with whole | ⟨first, rest, whole, parts⟩
  · simp only [rewriteEscSensorId, if_neg filled, split_slash_whole text whole]
  · have unowned : first ≠ "esc_sensor" := by
      intro same
      refine elsewhere rest ?_
      rw [parts, same]
      simp
    have segments := split_slash_cut first rest whole
    obtain ⟨second, others, shape⟩ := List.exists_cons_of_ne_nil (split_slash_nonempty rest)
    rw [shape, ← parts] at segments
    cases others with
    | nil => simp only [rewriteEscSensorId, if_neg filled, segments, if_neg unowned]
    | cons third more => simp only [rewriteEscSensorId, if_neg filled, segments, if_neg unowned]

theorem given_empty (id : Json K) (empty : id.truthy = false) : givenId id = .ok none := by
  simp [givenId, empty]

theorem sensor_written (id : Json K) (name : String) (named : SensorName id name) :
    escSensorId adminId id = .ok ("esc_sensor/" ++ adminId ++ "/" ++ name) := by
  cases named with
  | unnamed id empty =>
      rw [escSensorId, given_empty id empty]
      rfl
  | owned owner rest whole =>
      have filled : "esc_sensor/" ++ owner ++ "/" ++ name ≠ "" := by
        rw [String.append_assoc, String.append_assoc]
        exact prefixed_filled _ _ (by decide)
      rw [escSensorId, given_text _ filled, Except.map, sensor_owned adminId owner name whole]
  | bare own whole =>
      rw [escSensorId, given_text _ (prefixed_filled _ _ (by decide)), Except.map, sensor_bare adminId name whole]
  | foreign text filled elsewhere =>
      rw [escSensorId, given_text _ filled, Except.map, sensor_foreign adminId name filled elsewhere]

theorem sensor_named (id : Json K) (taken : idTaken id = true) : ∃ name, SensorName id name := by
  by_cases filled : id.truthy = true
  · cases id with
    | text text =>
        have nonempty : text ≠ "" := by simpa [Json.truthy] using filled
        by_cases own : ∃ rest, text = "esc_sensor/" ++ rest
        · obtain ⟨rest, isOwn⟩ := own
          rw [isOwn]
          rcases segments_cases rest with whole | ⟨owner, last, whole, parts⟩
          · exact ⟨rest, .bare rest whole⟩
          · refine ⟨last, ?_⟩
            rw [parts, show "esc_sensor/" ++ (owner ++ "/" ++ last) = "esc_sensor/" ++ owner ++ "/" ++ last from by
              simp [String.append_assoc]]
            exact .owned owner last whole
        · exact ⟨text, .foreign text nonempty fun rest same => own ⟨rest, same⟩⟩
    | _ => simp [idTaken, filled] at taken
  · exact ⟨"0", .unnamed id (by simpa using filled)⟩

theorem written_injective (start first second : String) (same : start ++ first = start ++ second) : first = second := by
  have texts := congrArg String.toList same
  rw [String.toList_append, String.toList_append] at texts
  exact String.toList_inj.mp (List.append_cancel_left texts)

-- Two ids that the route takes are written as one exactly when they are alike.
theorem sensors_collide_iff (first second : Json K) (taken : idTaken first = true) (otherTaken : idTaken second = true) :
    escSensorId adminId first = escSensorId adminId second ↔ SensorsAlike first second := by
  constructor
  · intro same
    obtain ⟨name, named⟩ := sensor_named first taken
    obtain ⟨other, otherNamed⟩ := sensor_named second otherTaken
    rw [sensor_written adminId first name named, sensor_written adminId second other otherNamed] at same
    have names := written_injective _ _ _ (Except.ok.inj same)
    exact ⟨name, named, names ▸ otherNamed⟩
  · rintro ⟨name, named, otherNamed⟩
    rw [sensor_written adminId first name named, sensor_written adminId second name otherNamed]

end Sensors

section Zones

variable (settings : FadSettings K)

theorem zone_segments (owner rest : String) :
    "zone/ppa/" ++ owner ++ "/" ++ rest = "zone" ++ "/" ++ ("ppa" ++ "/" ++ (owner ++ "/" ++ rest)) := by
  rw [← String.toList_inj]
  simp

theorem zone_owned (owner rest : String) (whole : '/' ∉ owner.toList) :
    rewriteZoneId settings (.text ("zone/ppa/" ++ owner ++ "/" ++ rest)) "0" =
      .ok ("zone/ppa/" ++ settings.sasAdminId ++ "/" ++ rest) := by
  have filled : "zone/ppa/" ++ owner ++ "/" ++ rest ≠ "" := by
    rw [String.append_assoc, String.append_assoc]
    exact prefixed_filled _ _ (by decide)
  have segments : splitSlash ("zone/ppa/" ++ owner ++ "/" ++ rest) = "zone" :: "ppa" :: owner :: splitSlash rest := by
    rw [zone_segments, split_slash_cut "zone" _ (by decide), split_slash_cut "ppa" _ (by decide),
      split_slash_cut owner rest whole]
  have joined := split_slash_join rest
  obtain ⟨fourth, others, shape⟩ := List.exists_cons_of_ne_nil (split_slash_nonempty rest)
  rw [shape] at segments joined
  simp only [rewriteZoneId, text_truthy _ filled, segments, joined]
  simp

-- An id that is not owned has no fourth segment after zone and ppa.
theorem zone_unowned (text : String)
    (unowned : ∀ owner rest : String, '/' ∉ owner.toList → text ≠ "zone/ppa/" ++ owner ++ "/" ++ rest) :
    rewriteZoneId settings (.text text) "0" = .ok ("zone/ppa/" ++ settings.sasAdminId ++ "/" ++ "0") := by
  by_cases filled : text = ""
  · rw [filled]
    rfl
  · rcases segments_cases text with whole | ⟨first, rest, whole, parts⟩
    · simp [rewriteZoneId, text_truthy text filled, split_slash_whole text whole]
    · have segments := split_slash_cut first rest whole
      rw [← parts] at segments
      rcases segments_cases rest with single | ⟨second, later, inner, inside⟩
      · rw [split_slash_whole rest single] at segments
        simp [rewriteZoneId, text_truthy text filled, segments]
      · rw [inside, split_slash_cut second later inner] at segments
        rcases segments_cases later with last | ⟨owner, name, ownerWhole, named⟩
        · rw [split_slash_whole later last] at segments
          simp [rewriteZoneId, text_truthy text filled, segments]
        · rw [named, split_slash_cut owner name ownerWhole] at segments
          have elsewhere : ¬ (first = "zone" ∧ second = "ppa") := by
            rintro ⟨isZone, isPpa⟩
            refine unowned owner name ownerWhole ?_
            rw [zone_segments, parts, inside, named, isZone, isPpa]
          obtain ⟨fourth, others, shape⟩ := List.exists_cons_of_ne_nil (split_slash_nonempty name)
          rw [shape] at segments
          simp [rewriteZoneId, text_truthy text filled, segments, elsewhere]

theorem zone_written (id : Json K) (name : String) (named : ZoneName id name) :
    rewriteZoneId settings id "0" = .ok ("zone/ppa/" ++ settings.sasAdminId ++ "/" ++ name) := by
  cases named with
  | owned owner rest whole => exact zone_owned settings owner name whole
  | other id taken unowned =>
      cases id with
      | text text => exact zone_unowned settings text fun owner rest whole same => unowned owner rest whole (by rw [same])
      | _ => simp_all [idTaken, rewriteZoneId]

theorem zone_named (id : Json K) (taken : idTaken id = true) : ∃ name, ZoneName id name := by
  by_cases own : ∃ owner rest : String, '/' ∉ owner.toList ∧ id = .text ("zone/ppa/" ++ owner ++ "/" ++ rest)
  · obtain ⟨owner, rest, whole, same⟩ := own
    exact ⟨rest, same ▸ .owned owner rest whole⟩
  · exact ⟨"0", .other id taken fun owner rest whole same => own ⟨owner, rest, whole, same⟩⟩

theorem zones_collide_iff (first second : Json K) (taken : idTaken first = true) (otherTaken : idTaken second = true) :
    rewriteZoneId settings first "0" = rewriteZoneId settings second "0" ↔ ZonesAlike first second := by
  constructor
  · intro same
    obtain ⟨name, named⟩ := zone_named first taken
    obtain ⟨other, otherNamed⟩ := zone_named second otherTaken
    rw [zone_written settings first name named, zone_written settings second other otherNamed] at same
    have names := written_injective _ _ _ (Except.ok.inj same)
    exact ⟨name, named, names ▸ otherNamed⟩
  · rintro ⟨name, named, otherNamed⟩
    rw [zone_written settings first name named, zone_written settings second name otherNamed]

theorem zone_taken (id : Json K) (fallbackSuffix written : String)
    (rewritten : rewriteZoneId settings id fallbackSuffix = .ok written) : idTaken id = true := by
  by_cases filled : id.truthy = true
  · cases id with
    | text text => rfl
    | _ => simp [rewriteZoneId, filled] at rewritten
  · cases id with
    | text text => rfl
    | _ => simpa [idTaken] using filled

end Zones

section Again

variable (settings : FadSettings K)

theorem sensor_taken (adminId : String) (id : Json K) (written : String) (rewritten : escSensorId adminId id = .ok written) :
    idTaken id = true := by
  by_cases filled : id.truthy = true
  · cases id with
    | text text => rfl
    | _ => simp [escSensorId, givenId, filled, Except.map] at rewritten
  · cases id with
    | text text => rfl
    | _ => simpa [idTaken] using filled

-- A written id is read again with what stands after the first slash of the admin's id.
theorem slashed_tail (start first rest name : String) :
    start ++ (first ++ "/" ++ rest) ++ "/" ++ name = start ++ first ++ "/" ++ (rest ++ "/" ++ name) := by
  simp [String.append_assoc]

theorem longer_tail (start rest name : String) : start ++ (rest ++ "/" ++ name) ≠ start ++ name := by
  intro same
  have lengths := congrArg String.length (written_injective start _ _ same)
  simp only [String.length_append] at lengths
  have slash : "/".length = 1 := by decide
  omega

theorem zone_again_iff (id : Json K) (written : String) (rewritten : rewriteZoneId settings id "0" = .ok written) :
    rewriteZoneId settings (.text written) "0" = .ok written ↔ '/' ∉ settings.sasAdminId.toList := by
  obtain ⟨name, named⟩ := zone_named id (zone_taken settings id "0" written rewritten)
  rw [zone_written settings id name named] at rewritten
  rw [← Except.ok.inj rewritten]
  constructor
  · intro again whole
    rcases segments_cases settings.sasAdminId with absent | ⟨first, rest, firstWhole, parts⟩
    · exact absent whole
    · have written := zone_owned settings first (rest ++ "/" ++ name) firstWhole
      rw [← slashed_tail, ← parts, again] at written
      exact longer_tail _ rest name (Except.ok.inj written).symm
  · exact fun whole => zone_owned settings settings.sasAdminId name whole

theorem sensor_again_iff (adminId : String) (id : Json K) (written : String) (rewritten : escSensorId adminId id = .ok written) :
    escSensorId adminId (.text written : Json K) = .ok written ↔ '/' ∉ adminId.toList := by
  obtain ⟨name, named⟩ := sensor_named id (sensor_taken adminId id written rewritten)
  rw [sensor_written adminId id name named] at rewritten
  rw [← Except.ok.inj rewritten]
  constructor
  · intro again whole
    rcases segments_cases adminId with absent | ⟨first, rest, firstWhole, parts⟩
    · exact absent whole
    · have written := sensor_written adminId (.text _ : Json K) _ (.owned first (rest ++ "/" ++ name) firstWhole)
      rw [← slashed_tail, ← parts, again] at written
      exact longer_tail _ rest name (Except.ok.inj written).symm
  · exact fun whole => sensor_written adminId _ name (.owned adminId name whole)

def Idempotent : Prop :=
  (∀ (id : Json K) (written : String), rewriteZoneId settings id "0" = .ok written →
      rewriteZoneId settings (.text written) "0" = .ok written) ∧
    ∀ (id : Json K) (written : String), escSensorId settings.sasAdminId id = .ok written →
      escSensorId settings.sasAdminId (.text written : Json K) = .ok written

theorem idempotent_iff : Idempotent settings ↔ '/' ∉ settings.sasAdminId.toList := by
  constructor
  · intro stable
    have rewritten := zone_written settings (.null : Json K) "0" (.other .null rfl fun _ _ _ same => by cases same)
    exact (zone_again_iff settings .null _ rewritten).mp (stable.1 .null _ rewritten)
  · exact fun whole => ⟨fun id written rewritten => (zone_again_iff settings id written rewritten).mpr whole,
      fun id written rewritten => (sensor_again_iff settings.sasAdminId id written rewritten).mpr whole⟩

end Again

end SasCore.Fad
