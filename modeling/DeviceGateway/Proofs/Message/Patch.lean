/-
# Patches and their versions

The hub tells the version of a patch in the topic, and the patch may tell one as well, as a member with a
name of its own.  A member with this name is never replaced, whatever it is; only a patch without one gets
the version of the topic.  The message of the patch then has the whole object as its body, and tells the
version that stands there if this is a whole number that fits.
-/

import DeviceGateway.Proofs.Message.Twin
import DeviceGateway.Uplink.Inbound

namespace DeviceGateway

open Json

/-- A number that was read from a text is one that JSON keeps exact. -/
theorem Numeral.fits_of_integer? {text : List Char} {value : Int} (read : integer? text = some value) :
    Number.Fits value := by
  have positive : 0 < Word.half64 := by decide
  have larger : Word.half64 ≤ Word.greatest64 := by decide
  unfold integer? at read
  split at read
  case h_1 =>
    split at read
    case h_1 n _ =>
      obtain ⟨most, same⟩ := Option.ite_none_right_eq_some.1 read
      cases same
      exact ⟨by omega, by omega⟩
    case h_2 => cases read
  case h_2 =>
    obtain ⟨n, found, rfl⟩ := Option.map_eq_some_iff.1 read
    have most := (Option.filter_eq_some_iff.1 found).2
    simp only [decide_eq_true_eq] at most
    exact ⟨by simp only [Int.ofNat_eq_natCast]; omega, by simp only [Int.ofNat_eq_natCast]; omega⟩

namespace PropertySet

theorem read?_eq_some_iff {payload : Bytes} {patch : PropertySet} :
    shape.read? payload = some patch ↔ Value.read? payload = some patch.toJson := by
  simp only [Shape.read?, Value.read?, Option.bind_eq_some_iff, shape_eq_some_iff]

theorem kept_of_read? {payload : Bytes} {patch : PropertySet}
    (read : Value.read? payload = some patch.toJson) (whole : patch.OnlyIntegers) :
    Value.Kept greatestDepth patch.toJson := by
  obtain ⟨document, _, value⟩ := Option.bind_eq_some_iff.1 read
  exact kept_of_value? value whole

theorem kept_withVersion {depth : Nat} {patch : PropertySet} {version : Int}
    (kept : Value.Kept depth patch.toJson) (fits : Number.Fits version) :
    Value.Kept depth (patch.withVersion version).toJson := by
  unfold withVersion
  split
  case h_1 => exact kept
  case h_2 =>
    cases kept with
    | object ordered each =>
      refine .object (Entries.ordered_insert _ _ ordered) fun member isIn => ?_
      rcases Entries.mem_insert isIn with rfl | old
      · exact .integer fits
      · exact each member old

/-- Whether an object is another one with a version where that has none. -/
structure Completes (object : Object) (version : Option Int) (whole : Object) : Prop where
  own : (object.get? versionKey).isSome → whole = object
  given : object.get? versionKey = none → ∀ number, version = some number →
    whole.get? versionKey = some (.ofInt number)
  absent : version = none → whole = object
  others : ∀ key, key ≠ versionKey → whole.get? key = object.get? key

theorem completes_withVersion (patch : PropertySet) (version : Int) :
    Completes patch.members (some version) (patch.withVersion version).members := by
  unfold withVersion
  cases found : patch.members.get? versionKey with
  | some value =>
    refine ⟨fun _ => rfl, fun missing => ?_, nofun, fun _ _ => rfl⟩
    cases missing.symm.trans found
  | none =>
    refine ⟨fun own => ?_, fun _ number same => ?_, nofun, fun key apart => ?_⟩
    · simp [found] at own
    · obtain rfl := Option.some.inj same
      exact TextMap.get?_insert_self ..
    · exact TextMap.get?_insert_of_ne _ _ apart

/-- A patch without a version stays as it is. -/
theorem completes_self (object : Object) : Completes object none object :=
  ⟨fun _ => rfl, fun _ _ => nofun, fun _ => rfl, fun _ _ => rfl⟩

/-- Whether a message carries an object, with a version where that has none, and tells the version. -/
def Carries (object : Object) (version : Option Int) (message : Message) : Prop :=
  ∃ whole, Completes object version whole ∧ Value.read? message.body = some (.ofObject whole) ∧
    TellsVersion ⟨whole⟩ message

theorem carries_toMessage {object : Object} {version : Option Int} {patch : PropertySet}
    (completes : Completes object version patch.members)
    (kept : Value.Kept greatestDepth patch.toJson) : Carries object version patch.toMessage := by
  obtain ⟨document, readBack⟩ := kept.exists_readsBack
  refine ⟨patch.members, completes, ?_, tellsVersion_toMessage patch⟩
  rw [Value.read?, toMessage, readBack.syntax]
  exact readBack.value?

end PropertySet

namespace Uplink

open PropertySet (Carries Completes carries_toMessage)

/-- The patch of a publication is the object in its payload, with the version of its topic. -/
theorem exists_patchOf (topic : String) {payload : Bytes} {object : Object}
    (read : Value.read? payload = some (.ofObject object)) : ∃ patch, patchOf topic payload = .ok patch ∧
      ((Value.ofObject object).OnlyIntegers →
        Carries object (Topic.Hub.parseDesiredVersion? topic) patch.toMessage) := by
  have shaped : PropertySet.shape.read? payload = some ⟨object⟩ := PropertySet.read?_eq_some_iff.2 read
  have kept := @PropertySet.kept_of_read? payload ⟨object⟩ read
  rw [patchOf, shaped]
  cases told : Topic.Hub.parseDesiredVersion? topic with
  | none => exact ⟨_, rfl, fun whole => carries_toMessage (PropertySet.completes_self object) (kept whole)⟩
  | some version =>
    obtain ⟨query, _, parsed⟩ := Option.bind_eq_some_iff.1 told
    obtain ⟨text, _, number⟩ := Option.bind_eq_some_iff.1 parsed
    have fits := Numeral.fits_of_integer? number
    exact ⟨_, rfl, fun whole => carries_toMessage (PropertySet.completes_withVersion ⟨object⟩ version)
      (PropertySet.kept_withVersion (kept whole) fits)⟩

/-- A payload that is no object is refused. -/
theorem patchOf_eq_error {topic : String} {payload : Bytes}
    (other : ∀ object, Value.read? payload ≠ some (.ofObject object)) :
    patchOf topic payload = .error patchFault := by
  have unread : PropertySet.shape.read? payload = none :=
    Option.eq_none_iff_forall_ne_some.2 fun patch read =>
      other patch.members (PropertySet.read?_eq_some_iff.1 read)
  rw [patchOf, unread]

end Uplink

end DeviceGateway
