import CollisionMonitor.Lib.Json
import CollisionMonitor.MessageRounds
import CollisionMonitor.Reconnection
import CollisionMonitor.RemoteSafety

set_option relaxedAutoImplicit false
set_option autoImplicit false

/-!
# State messages on the wire

The simulator publishes the state of a robot as the UTF-8 text of a JSON object with sorted keys.
The monitor decodes a body or rejects it as malformed, and validates the object against the schema
of robot states.

A float is represented by the text that is written for it: `floatText` takes the text of a float
that is read to the text that `json` writes for its value, as `1.10` to `1.1` and `1e400` to
`Infinity`. The coordinates of a simulated robot are finite; `floatRepr` and `floatOf` are their
texts and the values of these, and `validate` is the schema.

Bodies with an escape of a lone surrogate are left out, which Python reads and the model does not,
and bodies beyond the interpreter's limits on nesting and on the digits of an integer, which the
model reads.

## Main definitions

* `stateMembers`, `stateBody` — the payload of a robot as an object, and the body of its message.
* `decodeDelivery`, `incomingMessage` — decoding a body.
* `readState` — objects whose fields have the types of the schema.

## Main results

* `decodeDelivery_accepts` — what is accepted is well formed, survives being written again, and is
  determined by its text up to the order of keys.
* `decoded_of_published` — what a simulated robot publishes is decoded to its own payload.
-/

namespace CollisionMonitor

open Outcome

/-! ## Bodies -/

section Write

variable (floatRepr : ℚ → List Char)

/-- The members of a node of a path. -/
def poseMembers (pose : Pose ℚ) : List (String × Json) :=
  [("x", .float (floatRepr pose.x)), ("y", .float (floatRepr pose.y)),
    ("theta", .float (floatRepr pose.theta))]

/-- The members of `state_payload`. -/
def stateMembers (payload : StatePayloadFields) : List (String × Json) :=
  [("device_id", .str payload.deviceId), ("timestamp", .int payload.timestamp),
    ("x", .float (floatRepr payload.x)), ("y", .float (floatRepr payload.y)),
    ("theta", .float (floatRepr payload.theta)),
    ("battery_level", .float (floatRepr payload.batteryLevel)), ("loaded", .bool payload.loaded),
    ("deadline", .int payload.deadline),
    ("path", .arr (payload.path.map fun pose => .obj (poseMembers floatRepr pose)))]

/-- The UTF-8 text of an object. -/
def objectBody (members : List (String × Json)) : ByteArray :=
  (String.ofList (Json.dumps (.obj members))).toUTF8

/-- The body of a state message. -/
def stateBody (payload : StatePayloadFields) : ByteArray :=
  objectBody (stateMembers floatRepr payload)

end Write

/-! ## Decoding -/

section Decode

-- the texts of floats, and those of the errors of the codec and of the parser
variable (floatText : List Char → List Char) (unicodeError : ByteArray → String)
  (jsonError : String → String)

/-- Decode UTF-8 JSON, or say why the message is malformed. -/
def decodeDelivery (body : ByteArray) : Except String (List (String × Json)) :=
  match String.fromUTF8? body with
  | none => .error (unicodeError body)
  | some decoded =>
    match Json.loads decoded.toList with
    | none => .error (jsonError decoded)
    | some (.obj members) => .ok (Json.mapFloatsMembers floatText members)
    | some _ => .error "state JSON root must be an object"

/-- A message of the state queue. -/
def incomingMessage (validate : List (String × Json) → StatePayload) (body : ByteArray) :
    IncomingMessage StatePayload where
  bodySizeBytes := body.size
  decoded := (decodeDelivery floatText unicodeError jsonError body).map validate

end Decode

/-! ## The schema -/

/-- A string. -/
def readString : Json → Option String
  | .str s => some s
  | _ => none

/-- An integer. -/
def readInt : Json → Option ℤ
  | .int n => some n
  | _ => none

/-- A Boolean. -/
def readBool : Json → Option Bool
  | .bool b => some b
  | _ => none

/-- The value of a field. -/
def field {α : Type} (members : List (String × Json)) (key : String) (read : Json → Option α) :
    Option α := (members.lookup key).bind read

section Read

variable (floatOf : List Char → Option ℚ)

/-- A finite float that is written as one. -/
def readFloat : Json → Option ℚ
  | .float text => floatOf text
  | _ => none

/-- A node of a path, without other fields. -/
def readPose : Json → Option (Pose ℚ)
  | .obj members =>
    if ∀ key ∈ members.map Prod.fst, key ∈ ["x", "y", "theta"] then do
      let x ← field members "x" (readFloat floatOf)
      let y ← field members "y" (readFloat floatOf)
      let theta ← field members "theta" (readFloat floatOf)
      return { x, y, theta }
    else none
  | _ => none

/-- The nodes of a path. -/
def readPath : Json → Option (List (Pose ℚ))
  | .arr items => items.mapM (readPose floatOf)
  | _ => none

/-- The fields of a robot state. -/
def stateKeys : List String :=
  ["device_id", "timestamp", "x", "y", "theta", "battery_level", "loaded", "deadline", "path"]

/-- An object whose fields have the types of the schema without a conversion, and which has no other
fields; the path may be left out. -/
def readState (members : List (String × Json)) : Option StatePayloadFields :=
  if ∀ key ∈ members.map Prod.fst, key ∈ stateKeys then do
    let deviceId ← field members "device_id" readString
    let timestamp ← field members "timestamp" readInt
    let x ← field members "x" (readFloat floatOf)
    let y ← field members "y" (readFloat floatOf)
    let theta ← field members "theta" (readFloat floatOf)
    let batteryLevel ← field members "battery_level" (readFloat floatOf)
    let loaded ← field members "loaded" readBool
    let deadline ← field members "deadline" readInt
    let path ← (if "path" ∈ members.map Prod.fst then field members "path" (readPath floatOf)
      else some [])
    return { deviceId, timestamp, x, y, theta, batteryLevel, loaded, deadline, path }
  else none

end Read

/-! ## The round trip -/

/-- The float is written as the text of a float, which is its own, and read back. -/
structure RoundTrips (floatText : List Char → List Char) (floatRepr : ℚ → List Char)
    (floatOf : List Char → Option ℚ) (q : ℚ) : Prop where
  isFloat : Json.IsFloat (floatRepr q)
  written : floatText (floatRepr q) = floatRepr q
  read : floatOf (floatRepr q) = some q

/-- The floats of a pose. -/
def Pose.floats (pose : Pose ℚ) : List ℚ := [pose.x, pose.y, pose.theta]

/-- The floats of a payload. -/
def StatePayloadFields.floats (payload : StatePayloadFields) : List ℚ :=
  [payload.x, payload.y, payload.theta, payload.batteryLevel] ++ payload.path.flatMap Pose.floats

section RoundTrip

variable {floatText : List Char → List Char} {floatRepr : ℚ → List Char}
  {floatOf : List Char → Option ℚ} {pose : Pose ℚ} {payload : StatePayloadFields}

/-- The floats of a node are floats of the payload. -/
lemma mem_floats_of_path {q : ℚ} (hpose : pose ∈ payload.path) (hq : q ∈ pose.floats) :
    q ∈ payload.floats :=
  List.mem_append_right _ (List.mem_flatMap.mpr ⟨pose, hpose, hq⟩)

/-- The keys of a sorted object are those it had. -/
lemma mem_keys_canonical {members : List (String × Json)} {key : String} :
    key ∈ (sortedBy Prod.fst (Json.canonicalMembers members)).map Prod.fst ↔
      key ∈ members.map Prod.fst := by
  rw [((sortedBy_perm Prod.fst _).map Prod.fst).mem_iff, Json.keys_canonicalMembers]

/-- A field of a sorted object. -/
lemma field_canonical {α : Type} {members : List (String × Json)} {value : Json} {a : α}
    (hkeys : (members.map Prod.fst).Nodup) (key : String) (read : Json → Option α)
    (hlookup : members.lookup key = some value) (hread : read value.canonical = some a) :
    field (sortedBy Prod.fst (Json.canonicalMembers members)) key read = some a := by
  rw [field, Json.lookup_canonical hkeys, hlookup]
  exact hread

/-- A node of a path with sorted keys is read back. -/
lemma readPose_canonical (h : ∀ q ∈ pose.floats, RoundTrips floatText floatRepr floatOf q) :
    readPose floatOf (Json.canonical (.obj (poseMembers floatRepr pose))) = some pose := by
  have hkeys : ((poseMembers floatRepr pose).map Prod.fst).Nodup :=
    show ["x", "y", "theta"].Nodup by decide
  have hx := (h pose.x (by simp [Pose.floats])).read
  have hy := (h pose.y (by simp [Pose.floats])).read
  have htheta := (h pose.theta (by simp [Pose.floats])).read
  have honly : ∀ key ∈ (sortedBy Prod.fst (Json.canonicalMembers
      (poseMembers floatRepr pose))).map Prod.fst, key ∈ ["x", "y", "theta"] :=
    fun key hkey => mem_keys_canonical.mp hkey
  rw [Json.canonical, readPose, if_pos honly,
    field_canonical hkeys "x" _ rfl hx, field_canonical hkeys "y" _ rfl hy,
    field_canonical hkeys "theta" _ rfl htheta]
  rfl

/-- A path with sorted keys is read back. -/
lemma readPath_canonical {path : List (Pose ℚ)}
    (h : ∀ pose ∈ path, ∀ q ∈ pose.floats, RoundTrips floatText floatRepr floatOf q) :
    readPath floatOf (Json.canonical (.arr (path.map fun pose =>
      .obj (poseMembers floatRepr pose)))) = some path := by
  rw [Json.canonical, Json.canonicalItems_eq_map, List.map_map, readPath]
  induction path with
  | nil => rfl
  | cons pose path ih =>
    rw [List.map_cons, List.mapM_cons, Function.comp_apply,
      readPose_canonical (h pose List.mem_cons_self),
      ih fun p hp => h p (List.mem_cons_of_mem _ hp)]
    rfl

/-- **A payload** with sorted keys is read back. -/
lemma readState_canonical (h : ∀ q ∈ payload.floats, RoundTrips floatText floatRepr floatOf q) :
    readState floatOf (sortedBy Prod.fst
      (Json.canonicalMembers (stateMembers floatRepr payload))) = some payload := by
  have hkeys : ((stateMembers floatRepr payload).map Prod.fst).Nodup :=
    show stateKeys.Nodup by decide
  have hread : ∀ q ∈ [payload.x, payload.y, payload.theta, payload.batteryLevel],
      readFloat floatOf (Json.canonical (.float (floatRepr q))) = some q := fun q hq =>
    (h q (List.mem_append_left _ hq)).read
  have hpath := readPath_canonical fun pose hpose q hq => h q (mem_floats_of_path hpose hq)
  have honly : ∀ key ∈ (sortedBy Prod.fst (Json.canonicalMembers
      (stateMembers floatRepr payload))).map Prod.fst, key ∈ stateKeys :=
    fun key hkey => mem_keys_canonical.mp hkey
  rw [readState, if_pos honly,
    field_canonical hkeys "device_id" readString rfl rfl,
    field_canonical hkeys "timestamp" readInt rfl rfl,
    field_canonical hkeys "x" _ rfl (hread _ (by simp)),
    field_canonical hkeys "y" _ rfl (hread _ (by simp)),
    field_canonical hkeys "theta" _ rfl (hread _ (by simp)),
    field_canonical hkeys "battery_level" _ rfl (hread _ (by simp)),
    field_canonical hkeys "loaded" readBool rfl rfl,
    field_canonical hkeys "deadline" readInt rfl rfl,
    if_pos (mem_keys_canonical.mpr (by simp [stateMembers])),
    field_canonical hkeys "path" _ rfl hpath]
  rfl

/-- A node of a path is a well-formed object. -/
lemma wellFormed_poseMembers (h : ∀ q ∈ pose.floats, RoundTrips floatText floatRepr floatOf q) :
    (Json.obj (poseMembers floatRepr pose)).WellFormed := by
  refine .obj (show ["x", "y", "theta"].Nodup by decide) fun member hmember => ?_
  simp only [poseMembers, List.mem_cons, List.not_mem_nil, or_false] at hmember
  rcases hmember with rfl | rfl | rfl
  · exact .float (h pose.x (by simp [Pose.floats])).isFloat
  · exact .float (h pose.y (by simp [Pose.floats])).isFloat
  · exact .float (h pose.theta (by simp [Pose.floats])).isFloat

/-- A payload is a well-formed object. -/
lemma wellFormed_stateMembers (h : ∀ q ∈ payload.floats, RoundTrips floatText floatRepr floatOf q) :
    (Json.obj (stateMembers floatRepr payload)).WellFormed := by
  have hfloat : ∀ q ∈ [payload.x, payload.y, payload.theta, payload.batteryLevel],
      (Json.float (floatRepr q)).WellFormed := fun q hq =>
    .float (h q (List.mem_append_left _ hq)).isFloat
  refine .obj (show stateKeys.Nodup by decide) fun member hmember => ?_
  simp only [stateMembers, List.mem_cons, List.not_mem_nil, or_false] at hmember
  rcases hmember with rfl | rfl | rfl | rfl | rfl | rfl | rfl | rfl | rfl
  · exact .str _
  · exact .int _
  · exact hfloat _ (by simp)
  · exact hfloat _ (by simp)
  · exact hfloat _ (by simp)
  · exact hfloat _ (by simp)
  · exact .bool _
  · exact .int _
  · refine .arr (List.forall_mem_map.mpr fun pose hpose => ?_)
    exact wellFormed_poseMembers fun q hq => h q (mem_floats_of_path hpose hq)

/-- The UTF-8 bytes of a text are decoded to it. -/
lemma fromUTF8_toUTF8 (s : String) : String.fromUTF8? s.toUTF8 = some s :=
  dif_pos s.isValidUTF8

/-- A float that round-trips is written as it is. -/
lemma RoundTrips.mapFloats {q : ℚ} (h : RoundTrips floatText floatRepr floatOf q) :
    Json.mapFloats floatText (.float (floatRepr q)) = .float (floatRepr q) :=
  congrArg Json.float h.written

/-- The floats of a node are written as they are. -/
lemma mapFloats_poseMembers (h : ∀ q ∈ pose.floats, RoundTrips floatText floatRepr floatOf q) :
    Json.mapFloats floatText (.obj (poseMembers floatRepr pose)) =
      .obj (poseMembers floatRepr pose) := by
  have hx := (h pose.x (by simp [Pose.floats])).mapFloats
  have hy := (h pose.y (by simp [Pose.floats])).mapFloats
  have htheta := (h pose.theta (by simp [Pose.floats])).mapFloats
  rw [Json.mapFloats]
  simp only [poseMembers, Json.mapFloatsMembers, hx, hy, htheta]

/-- The floats of a payload are written as they are. -/
lemma mapFloats_stateMembers (h : ∀ q ∈ payload.floats, RoundTrips floatText floatRepr floatOf q) :
    Json.mapFloatsMembers floatText (stateMembers floatRepr payload) =
      stateMembers floatRepr payload := by
  have hpath : Json.mapFloats floatText (.arr (payload.path.map fun pose =>
      .obj (poseMembers floatRepr pose))) =
        .arr (payload.path.map fun pose => .obj (poseMembers floatRepr pose)) := by
    rw [Json.mapFloats, Json.mapFloatsItems_eq_map, List.map_map]
    exact congrArg Json.arr (List.map_congr_left fun pose hpose =>
      mapFloats_poseMembers fun q hq => h q (mem_floats_of_path hpose hq))
  have hown : ∀ q ∈ [payload.x, payload.y, payload.theta, payload.batteryLevel],
      Json.mapFloats floatText (.float (floatRepr q)) = .float (floatRepr q) := fun q hq =>
    (h q (List.mem_append_left _ hq)).mapFloats
  simp only [stateMembers, Json.mapFloatsMembers, hpath, hown payload.x (by simp),
    hown payload.y (by simp), hown payload.theta (by simp), hown payload.batteryLevel (by simp)]
  simp only [Json.mapFloats]

/-- What is accepted is the text of an object. -/
lemma decodeDelivery_eq_ok {unicodeError : ByteArray → String} {jsonError : String → String}
    {body : ByteArray} {members : List (String × Json)} :
    decodeDelivery floatText unicodeError jsonError body = .ok members ↔ ∃ decoded found,
      String.fromUTF8? body = some decoded ∧ Json.loads decoded.toList = some (.obj found) ∧
        Json.mapFloatsMembers floatText found = members := by
  unfold decodeDelivery
  cases String.fromUTF8? body with
  | none => simp
  | some decoded =>
    simp only [Option.some.injEq, exists_and_left, exists_eq_left']
    split
    · next hloads => simp [hloads]
    · next found hloads => simp [hloads]
    · next other hother hloads =>
      rw [hloads]
      simpa using fun found heq => absurd heq (hother found)

/-- An object is decoded from its body, with sorted keys. -/
lemma decodeDelivery_objectBody (floatText : List Char → List Char)
    (unicodeError : ByteArray → String) (jsonError : String → String)
    {members : List (String × Json)} (h : (Json.obj members).WellFormed) :
    decodeDelivery floatText unicodeError jsonError (objectBody members) =
      .ok (sortedBy Prod.fst (Json.canonicalMembers (Json.mapFloatsMembers floatText members))) := by
  have hsorted := Json.canonical_mapFloats (f := floatText) h
  simp only [Json.mapFloats, Json.canonical] at hsorted
  refine decodeDelivery_eq_ok.mpr ⟨_, _, fromUTF8_toUTF8 _, ?_, (Json.obj.inj hsorted).symm⟩
  rw [String.toList_ofList]
  exact Json.loads_dumps h

/-- Two objects have the same body iff they have the same text. -/
lemma objectBody_inj {members others : List (String × Json)} :
    objectBody members = objectBody others ↔
      Json.dumps (.obj members) = Json.dumps (.obj others) := by
  rw [objectBody, objectBody, String.toUTF8_eq_toByteArray, String.toUTF8_eq_toByteArray,
    String.toByteArray_inj, ← String.toList_inj, String.toList_ofList, String.toList_ofList]

/-- What is accepted is well formed, and its floats are written as they are. -/
lemma wellFormed_decodeDelivery (hfloats : Json.RewritesFloats floatText)
    {unicodeError : ByteArray → String} {jsonError : String → String} {body : ByteArray}
    {members : List (String × Json)}
    (h : decodeDelivery floatText unicodeError jsonError body = .ok members) :
    (Json.obj members).WellFormed ∧ Json.mapFloatsMembers floatText members = members := by
  obtain ⟨decoded, found, -, hloads, rfl⟩ := decodeDelivery_eq_ok.mp h
  have hfound := Json.wellFormed_loads hloads
  exact ⟨hfound.mapFloats hfloats, Json.obj.inj (Json.mapFloats_mapFloats hfloats hfound)⟩

/-- **What is accepted** is a well-formed object; writing it and decoding that gives the same object
with sorted keys, whose body is the same; and two accepted objects have the same body iff they are
identical up to the order of keys. Two values are identical if they have the same type and, for
floats, the same text: `1`, `1.0` and `True` differ, as do `0.0` and `-0.0`.

**Proof sketch.** Reading gives well-formed values (`Json.wellFormed_loads`), and rewriting the
floats keeps that. A well-formed value is read back from its text with sorted keys
(`Json.loads_dumps`), and a second rewriting of its floats changes nothing, so its text determines
it. -/
theorem decodeDelivery_accepts (hfloats : Json.RewritesFloats floatText)
    (unicodeError : ByteArray → String) (jsonError : String → String) {body : ByteArray}
    {members : List (String × Json)}
    (h : decodeDelivery floatText unicodeError jsonError body = .ok members) :
    (Json.obj members).WellFormed ∧
      (∃ normal,
        decodeDelivery floatText unicodeError jsonError (objectBody members) = .ok normal ∧
        objectBody normal = objectBody members ∧
        ∀ key, normal.lookup key = (members.lookup key).map Json.canonical) ∧
      ∀ other others, decodeDelivery floatText unicodeError jsonError other = .ok others →
        (objectBody others = objectBody members ↔
          Json.canonical (.obj others) = Json.canonical (.obj members)) := by
  obtain ⟨hwell, hwritten⟩ := wellFormed_decodeDelivery hfloats h
  have hnormal := decodeDelivery_objectBody floatText unicodeError jsonError hwell
  rw [hwritten] at hnormal
  refine ⟨hwell, ⟨_, hnormal, ?_, fun key => ?_⟩, fun other others hother => ?_⟩
  · exact objectBody_inj.mpr (congrArg Json.write (Json.canonical_canonical hwell))
  · exact Json.lookup_canonical (Json.keys_nodup hwell) key
  · rw [objectBody_inj]
    exact Json.dumps_eq_iff (wellFormed_decodeDelivery hfloats hother).1 hwell

/-- A small object, whose float is not written as Python writes it. -/
def smallObject : List (String × Json) :=
  [("b", .float "1.10".toList), ("a", .arr [.str "é", .null])]

/-- The rewriting of that float. -/
def smallFloatText (text : List Char) : List Char :=
  if text = "1.10".toList then "1.1".toList else text

/-- That is a rewriting of floats. -/
lemma rewritesFloats_small : Json.RewritesFloats smallFloatText where
  isFloat {text} h := by
    unfold smallFloatText
    split_ifs
    · exact .inr ⟨List.all_eq_true.mp (by decide), by decide, by decide⟩
    · exact h
  idempotent {text} _ := by
    unfold smallFloatText
    split_ifs with h hagain
    · exact absurd hagain (by decide)
    · rfl
    · rfl

/-- The small object is well formed. -/
lemma wellFormed_smallObject : (Json.obj smallObject).WellFormed := by
  refine .obj (show ["b", "a"].Nodup by decide) fun member hmember => ?_
  rcases List.mem_pair.mp hmember with rfl | rfl
  · exact .float (.inr ⟨List.all_eq_true.mp (by decide), by decide, by decide⟩)
  · refine .arr fun item hitem => ?_
    rcases List.mem_pair.mp hitem with rfl | rfl
    · exact .str "é"
    · exact .null

/-- **A small object** that is accepted, with its keys in another order and its float as `1.1`. -/
theorem decodeDelivery_accepts_small : ∃ members,
    decodeDelivery smallFloatText (fun _ => "codec") (fun _ => "parser") (objectBody smallObject) =
        .ok members ∧
      members.lookup "b" = some (.float "1.1".toList) ∧
      (Json.obj members).WellFormed ∧ ∃ normal,
        decodeDelivery smallFloatText (fun _ => "codec") (fun _ => "parser")
          (objectBody members) = .ok normal ∧ objectBody normal = objectBody members := by
  have haccepted := decodeDelivery_objectBody smallFloatText (fun _ => "codec")
    (fun _ => "parser") wellFormed_smallObject
  have hkeys : ((Json.mapFloatsMembers smallFloatText smallObject).map Prod.fst).Nodup :=
    show ["b", "a"].Nodup by decide
  have hfloat : (sortedBy Prod.fst (Json.canonicalMembers
      (Json.mapFloatsMembers smallFloatText smallObject))).lookup "b" =
        some (.float "1.1".toList) := by
    rw [Json.lookup_canonical hkeys]
    rfl
  obtain ⟨hwell, ⟨normal, hnormal, hsame, -⟩, -⟩ :=
    decodeDelivery_accepts rewritesFloats_small _ _ haccepted
  exact ⟨_, haccepted, hfloat, hwell, normal, hnormal, hsame⟩

/-- **A published payload** is decoded as an object with the same fields. -/
lemma decodeDelivery_stateBody (unicodeError : ByteArray → String) (jsonError : String → String)
    (h : ∀ q ∈ payload.floats, RoundTrips floatText floatRepr floatOf q) :
    decodeDelivery floatText unicodeError jsonError (stateBody floatRepr payload) =
      .ok (sortedBy Prod.fst (Json.canonicalMembers (stateMembers floatRepr payload))) := by
  have hdecoded := decodeDelivery_objectBody floatText unicodeError jsonError
    (wellFormed_stateMembers h)
  rwa [mapFloats_stateMembers h] at hdecoded

end RoundTrip

/-! ## What a simulated robot publishes -/

/-- The floats of the robots of a scenario. -/
def ScenarioDefinition.floats (scenario : ScenarioDefinition) : List ℚ :=
  scenario.robots.flatMap fun robot =>
    robot.batteryLevel :: (robot.initialPose :: robot.path).flatMap Pose.floats

/-- A robot on its way through its scenario. -/
structure SimulatedRobot.FromScenario (scenario : ScenarioDefinition) (robot : SimulatedRobot) :
    Prop where
  battery_range : 0 ≤ robot.batteryLevel ∧ robot.batteryLevel ≤ 100
  deadline_nonneg : 0 ≤ robot.deadlineMs
  battery : robot.batteryLevel ∈ scenario.floats
  path : ∀ pose ∈ robot.remainingPath, ∀ q ∈ pose.floats, q ∈ scenario.floats

/-- A payload is that of a valid state, and its floats are those of the scenario. -/
structure StatePayloadFields.Genuine (scenario : ScenarioDefinition)
    (payload : StatePayloadFields) : Prop where
  valid : ∃ state : RobotState, RobotState.modelValidate (.wellTyped payload) = .ok state ∧
    state.payload = payload
  floats : ∀ q ∈ payload.floats, q ∈ scenario.floats

section Robots

variable {scenario : ScenarioDefinition} {robot moved : SimulatedRobot} {tick timestampMs : ℤ}
  {payload : StatePayloadFields}

/-- A robot that is created is at the start of its way. -/
lemma SimulatedRobot.fromScenario_of_create {definition : ScenarioRobot} {deadlineMs : ℤ}
    (hdefinition : definition ∈ scenario.robots)
    (h : SimulatedRobot.create definition.deviceId definition.initialPose definition.path
      definition.loaded definition.batteryLevel deadlineMs = .ok robot) :
    robot.FromScenario scenario := by
  obtain ⟨_, hbattery, h⟩ := bind_eq_ok.mp h
  obtain ⟨_, hdeadline, h⟩ := bind_eq_ok.mp h
  rw [raiseIf_eq_ok, not_not] at hbattery
  rw [raiseIf_eq_ok, not_lt] at hdeadline
  obtain rfl := Except.ok.inj h
  refine ⟨hbattery, hdeadline, ?_, fun pose hpose q hq => ?_⟩
  · exact List.mem_flatMap.mpr ⟨definition, hdefinition, List.mem_cons_self⟩
  · exact List.mem_flatMap.mpr ⟨definition, hdefinition,
      List.mem_cons_of_mem _ (List.mem_flatMap.mpr ⟨pose, hpose, hq⟩)⟩

/-- Advancing drops the first node. -/
lemma SimulatedRobot.FromScenario.advance (h : robot.FromScenario scenario)
    (hadvance : robot.advanceForTick tick = .ok moved) : moved.FromScenario scenario := by
  obtain ⟨_, -, hmoved⟩ := bind_eq_ok.mp hadvance
  obtain rfl := Except.ok.inj hmoved
  split
  · next next rest _ hpath =>
    refine { h with path := fun pose hpose => h.path pose ?_ }
    rw [hpath]
    exact List.mem_cons_of_mem _ hpose
  · exact h

/-- Publication and delivery leave the robot on its way. -/
lemma SimulatedRobot.FromScenario.deliver (h : robot.FromScenario scenario)
    (actions : Dict RobotId ActionMessage) :
    (robot.afterPublication.deliver actions).FromScenario scenario := by
  have hpublished : robot.afterPublication.FromScenario scenario := by
    rw [robot.afterPublication_same]
    exact ⟨h.battery_range, h.deadline_nonneg, h.battery, h.path⟩
  unfold SimulatedRobot.deliver
  split
  · exact hpublished
  · split_ifs
    · exact hpublished
    · exact ⟨hpublished.battery_range, hpublished.deadline_nonneg, hpublished.battery,
        hpublished.path⟩

/-- A payload whose fields are in range is that of a state. -/
lemma modelValidate_of_range (h : payload.deviceId ≠ "" ∧ 0 ≤ payload.timestamp ∧
    (0 ≤ payload.batteryLevel ∧ payload.batteryLevel ≤ 100) ∧ 0 ≤ payload.deadline) :
    ∃ state : RobotState, RobotState.modelValidate (.wellTyped payload) = .ok state ∧
      state.payload = payload := by
  have hvalid : RobotState.modelValidate (.wellTyped payload) = .ok _ := dif_pos h
  exact ⟨_, hvalid, RobotState.payload_of_modelValidate hvalid⟩

/-- **The payload of a robot** is that of a valid state. -/
lemma SimulatedRobot.FromScenario.genuine (h : robot.FromScenario scenario)
    (hpayload : robot.statePayload timestampMs = .ok payload) : payload.Genuine scenario := by
  obtain ⟨_, htimestamp, hpayload⟩ := bind_eq_ok.mp hpayload
  rw [raiseIf_eq_ok, not_lt] at htimestamp
  obtain rfl := Except.ok.inj hpayload
  have hpose : ∀ q ∈ robot.pose.floats, q ∈ scenario.floats :=
    h.path robot.pose (List.mem_of_mem_head? robot.remaining_head)
  constructor
  · exact modelValidate_of_range ⟨robot.robotId.property, htimestamp, h.battery_range,
      h.deadline_nonneg⟩
  · intro q hq
    rcases List.mem_append.mp hq with hq | hq
    · simp only [List.mem_cons, List.not_mem_nil, or_false] at hq
      rcases hq with rfl | rfl | rfl | rfl
      · exact hpose _ (by simp [Pose.floats])
      · exact hpose _ (by simp [Pose.floats])
      · exact hpose _ (by simp [Pose.floats])
      · exact h.battery
    · obtain ⟨pose, hmem, hq⟩ := List.mem_flatMap.mp hq
      dsimp only at hmem
      split_ifs at hmem
      · cases hmem
      · exact h.path pose hmem q hq

end Robots

/-! ## Runs -/

section Runs

variable {E π : Type} {wrappedAngle : ℚ → ℚ} {config : MonitorConfig} {geometry : Geometry E}
  {cpSat : ℕ → Backend} {publisher : ActionPublisher π} {runId : ℕ → String} {startEpochMs : ℤ}
  {scenario : ScenarioDefinition} {tickLimit : ℕ} {s t : RemoteRun π}

/-- What the robots are, are about to publish and have published belongs to the scenario; what
earlier runs left is older than the start. -/
structure Scripted (startEpochMs : ℤ) (scenario : ScenarioDefinition) (s : RemoteRun π) : Prop where
  robots : ∀ robot ∈ s.robots, robot.FromScenario scenario
  remaining : ∀ remaining, s.phase = .publishing remaining →
    ∀ payload ∈ remaining, payload.Genuine scenario
  published : ∀ payload ∈ s.published, payload.timestamp < startEpochMs ∨ payload.Genuine scenario

/-- **What one step keeps.**

**Proof sketch.** By cases on the step. Poses and paths of the robots come from the scenario, and a
movement takes the next pose of its path. What is published was made of such a robot. -/
lemma Scripted.step (h : Scripted startEpochMs scenario s)
    (hstep : RemoteStep wrappedAngle config geometry cpSat publisher runId startEpochMs scenario
      tickLimit s t) : Scripted startEpochMs scenario t := by
  cases hstep with
  | began hphase hlimit hgoes hbegin =>
    obtain ⟨moved, hmoved, hbegin⟩ := bind_eq_ok.mp hbegin
    obtain ⟨payloads, hpayloads, hbegin⟩ := bind_eq_ok.mp hbegin
    obtain ⟨rfl, rfl⟩ := Prod.mk.inj (Except.ok.inj hbegin)
    have hrobots : ∀ robot ∈ moved, robot.FromScenario scenario := fun robot hrobot => by
      obtain ⟨earlier, hearlier, hadvance⟩ := exists_of_mem_mapM hmoved robot hrobot
      exact (h.robots earlier hearlier).advance hadvance
    refine ⟨hrobots, fun remaining hremaining payload hpayload => ?_, h.published⟩
    obtain rfl := RemotePhase.publishing.inj hremaining
    obtain ⟨robot, hrobot, hstate⟩ := exists_of_mem_mapM hpayloads payload hpayload
    exact (hrobots robot (List.mem_of_mem_filter hrobot)).genuine hstate
  | @published payload rest hphase =>
    have hpayloads := h.remaining _ hphase
    refine ⟨h.robots, fun remaining hremaining p hp => ?_, fun p hp => ?_⟩
    · obtain rfl := RemotePhase.publishing.inj hremaining
      exact hpayloads p (List.mem_cons_of_mem _ hp)
    · rcases List.mem_append.mp hp with hp | hp
      · exact h.published p hp
      · rw [List.mem_singleton.mp hp]
        exact .inr (hpayloads payload List.mem_cons_self)
  | finished hphase hfinish =>
    obtain ⟨_, -, hfinish⟩ := bind_eq_ok.mp hfinish
    obtain rfl := Except.ok.inj hfinish
    refine ⟨fun robot hrobot => ?_, fun _ hremaining => (by cases hremaining), h.published⟩
    obtain ⟨_, hpublished, rfl⟩ := List.mem_map.mp hrobot
    obtain ⟨earlier, hearlier, rfl⟩ := List.mem_map.mp hpublished
    exact (h.robots earlier hearlier).deliver _
  | awaited hphase => exact ⟨h.robots, fun _ hremaining => (by cases hremaining), h.published⟩
  | received body hphase hsent hfresh =>
    exact ⟨h.robots, fun _ hremaining => (by cases hremaining), h.published⟩
  | timedOut hphase => exact ⟨h.robots, fun _ hremaining => (by cases hremaining), h.published⟩
  | _ => exact ⟨h.robots, h.remaining, h.published⟩

/-- The robots keep to the scenario in every run. -/
lemma scripted_of_reachable (h : (remoteMachine wrappedAngle config geometry cpSat publisher runId
    startEpochMs scenario tickLimit).Reachable s) : Scripted startEpochMs scenario s := by
  induction h with
  | init hinit =>
    obtain ⟨robots, published, leftovers, world, started, hrobots, hpublished, -, rfl⟩ := hinit
    refine ⟨fun robot hrobot => ?_, fun _ hremaining => (by cases hremaining),
      fun payload hpayload => .inl (hpublished payload hpayload)⟩
    obtain ⟨definition, hdefinition, hcreate⟩ := exists_of_mem_mapM hrobots robot hrobot
    exact SimulatedRobot.fromScenario_of_create ((mem_sortedBy _ _).mp hdefinition) hcreate
  | step _ hstep ih => exact ih.step hstep

/-- **What a simulated robot publishes is understood.** Whatever states a run of the simulator
publishes over RabbitMQ, and however the monitor works meanwhile: the body of each is decoded to the
very payload that it was written from, which is the payload of a valid state. The coordinates of the
scenario are finite: its schema also accepts infinities and NaN, which that of states rejects.

**Proof sketch.** The robots keep to their scenario (`Scripted.step`), so the floats of a published
payload are floats of the scenario, and its fields are in the ranges of a state. The keys of its
object differ, so each field is found again under its key (`readState_canonical`). -/
theorem decoded_of_published {floatText : List Char → List Char} {floatRepr : ℚ → List Char}
    {floatOf : List Char → Option ℚ} {validate : List (String × Json) → StatePayload}
    (unicodeError : ByteArray → String) (jsonError : String → String)
    (hfloats : ∀ q ∈ scenario.floats, RoundTrips floatText floatRepr floatOf q)
    (hvalidate : ∀ members payload, readState floatOf members = some payload →
      validate members = .wellTyped payload)
    (hreach : (remoteMachine wrappedAngle config geometry cpSat publisher runId startEpochMs
      scenario tickLimit).Reachable s)
    {payload : StatePayloadFields} (hpublished : payload ∈ s.published)
    (hstart : startEpochMs ≤ payload.timestamp) :
    (incomingMessage floatText unicodeError jsonError validate
        (stateBody floatRepr payload)).decoded = .ok (.wellTyped payload) ∧
      ∃ state : RobotState, RobotState.modelValidate (.wellTyped payload) = .ok state ∧
        state.payload = payload := by
  have hgenuine : payload.Genuine scenario :=
    ((scripted_of_reachable hreach).published payload hpublished).resolve_left hstart.not_gt
  have hround : ∀ q ∈ payload.floats, RoundTrips floatText floatRepr floatOf q := fun q hq =>
    hfloats q (hgenuine.floats q hq)
  refine ⟨?_, hgenuine.valid⟩
  rw [incomingMessage, decodeDelivery_stateBody unicodeError jsonError hround]
  exact congrArg Except.ok (hvalidate _ _ (readState_canonical hround))

end Runs

/-! ## Two robots that publish -/

/-- The text of a float that is a whole number of at most 15 digits. -/
def wholeRepr (q : ℚ) : List Char := JsonText.writeInt q.num ++ ['.', '0']

/-- The float of such a text. -/
def wholeOf (text : List Char) : Option ℚ :=
  if text.dropWhile (· != '.') = ['.', '0'] then
    some (JsonText.intValue (text.takeWhile (· != '.')) : ℤ)
  else none

/-- A schema without coercions. -/
def strictValidate (members : List (String × Json)) : StatePayload :=
  match readState wholeOf members with
  | some payload => .wellTyped payload
  | none => .malformed (field members "device_id" readString)

/-- The floats of the scenario. -/
lemma meetingScenario_floats : ∀ q ∈ meetingScenario.floats, q ∈ ([0, 2, 3, 5, 50] : List ℚ) := by
  decide +kernel

/-- They are written as they are, and read back. -/
lemma roundTrips_whole : ∀ q ∈ ([0, 2, 3, 5, 50] : List ℚ), RoundTrips id wholeRepr wholeOf q := by
  have hchars : ∀ q ∈ ([0, 2, 3, 5, 50] : List ℚ),
      (wholeRepr q).all JsonText.isNumberChar = true := by decide +kernel
  have hfloat : ∀ q ∈ ([0, 2, 3, 5, 50] : List ℚ), JsonText.isIntText (wholeRepr q) = false ∧
      JsonText.isFloatText (wholeRepr q) = true ∧ wholeOf (wholeRepr q) = some q := by
    decide +kernel
  intro q hq
  obtain ⟨hint, htext, hof⟩ := hfloat q hq
  exact ⟨.inr ⟨List.all_eq_true.mp (hchars q hq), hint, htext⟩, rfl, hof⟩

/-- **A body in a run**: what the first robot publishes at the start. -/
theorem decoded_of_published_meeting :
    (incomingMessage id (fun _ => "codec") (fun _ => "parser") strictValidate
        (stateBody wholeRepr (meetingPayload "a" 0 3 10000))).decoded =
      .ok (.wellTyped (meetingPayload "a" 0 3 10000)) ∧
    ∃ state : RobotState,
      RobotState.modelValidate (.wellTyped (meetingPayload "a" 0 3 10000)) = .ok state ∧
        state.payload = meetingPayload "a" 0 3 10000 := by
  refine decoded_of_published _ _ (fun q hq => roundTrips_whole q (meetingScenario_floats q hq))
    (fun members payload hread => ?_) meetingPublished_reachable List.mem_cons_self (le_refl 0)
  rw [strictValidate, hread]

end CollisionMonitor
