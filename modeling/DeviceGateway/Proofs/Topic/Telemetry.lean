/-
# What a telemetry topic tells

The topic of a telemetry message names its origin and its properties, and both can be read off it: it is
cut at its slashes into the names of the origin and the bag, because none of them holds a slash.  A device
and a module are told apart by the number of levels, whatever they are called.

Only a property of the application that has the name of a well-known one may hide behind that one.
-/

import DeviceGateway.Proofs.Topic.Bag
import DeviceGateway.Proofs.Topic.Filter
import DeviceGateway.Uplink.Options

namespace DeviceGateway

namespace Topic

/-! ## The characters of a bag -/

namespace Bag

/-- Whether a character may stand in a bag. -/
def IsMark (c : Char) : Prop :=
  c.isAlphanum = true ∨ c ∈ ['$', '.', '-', '_', '~', '%', '&', '=']

theorem isMark_of_isWritten {c : Char} (written : Percent.IsWritten c) : IsMark c := by
  obtain ⟨ascii, rfl | kept⟩ := written
  · exact .inr (by decide)
  · have size : (UInt8.ofNat c.toNat).toNat = c.toNat :=
      UInt8.toNat_ofNat_of_lt' (Nat.lt_of_lt_of_le ascii (by decide))
    rw [Percent.isKept_iff, size] at kept
    have same : ∀ other : Char, c.toNat = other.toNat → c = other :=
      fun _ => Char.toNat_inj.1
    have between : ∀ low high : UInt32, low.toNat ≤ c.toNat ∧ c.toNat ≤ high.toNat →
        low ≤ c.val ∧ c.val ≤ high := fun _ _ =>
      And.imp UInt32.le_iff_toNat_le.2 UInt32.le_iff_toNat_le.2
    rcases kept with digit | upper | lower | mark | mark | mark | mark | mark
    · have plain : c.isDigit = true :=
        Bool.and_eq_true_iff.2 ((between 48 57 digit).imp decide_eq_true decide_eq_true)
      exact .inl (Bool.or_eq_true_iff.2 (.inr plain))
    · have plain : c.isUpper = true := decide_eq_true (between 65 90 upper)
      exact .inl (Bool.or_eq_true_iff.2 (.inl (Bool.or_eq_true_iff.2 (.inl plain))))
    · have plain : c.isLower = true :=
        Bool.and_eq_true_iff.2 ((between 97 122 lower).imp decide_eq_true decide_eq_true)
      exact .inl (Bool.or_eq_true_iff.2 (.inl (Bool.or_eq_true_iff.2 (.inr plain))))
    · exact .inr (by simp [same '$' mark])
    · exact .inr (by simp [same '.' mark])
    · exact .inr (by simp [same '-' mark])
    · exact .inr (by simp [same '_' mark])
    · exact .inr (by simp [same '~' mark])

theorem isMark_of_mem_encodePair {pair : String × String} {c : Char} (member : c ∈ encodePair pair) :
    IsMark c := by
  rw [encodePair, List.mem_append, List.mem_cons] at member
  rcases member with key | rfl | value
  · exact isMark_of_isWritten (Percent.isWritten_of_mem_encode key)
  · exact .inr (by decide)
  · exact isMark_of_isWritten (Percent.isWritten_of_mem_encode value)

theorem isMark_of_mem_encode {message : HubMessage} {c : Char}
    (member : c ∈ (encode message).toList) : IsMark c := by
  rw [encode, String.toList_ofList] at member
  rcases Text.mem_joinWith member with rfl | ⟨piece, listed, inside⟩
  · exact .inr (by decide)
  · obtain ⟨pair, _, rfl⟩ := List.mem_map.1 listed
    exact isMark_of_mem_encodePair inside

theorem slash_not_mem_encode (message : HubMessage) : '/' ∉ (encode message).toList :=
  fun member => absurd (isMark_of_mem_encode member) (by simp [IsMark])

/-! ## What a bag tells -/

/-- Two messages agree on what a bag is about. -/
structure SameProperties (one other : HubMessage) : Prop where
  messageId : one.messageId = other.messageId
  correlationId : one.correlationId = other.correlationId
  contentType : one.contentType = other.contentType
  contentEncoding : one.contentEncoding = other.contentEncoding
  properties : one.properties = other.properties

/-- No property of the application has the name of a well-known one. -/
def KeepsNames (message : HubMessage) : Prop :=
  ∀ key ∈ [messageIdKey, correlationIdKey, contentTypeKey, contentEncodingKey],
    message.properties.get? key = none

theorem encode_eq_iff_pairs_eq (one other : HubMessage) :
    encode one = encode other ↔ pairs one = pairs other := by
  constructor
  · intro same
    rw [← decode_encode, same, decode_encode]
  · intro same
    rw [encode, same, encode]

/-- The last pair with a well-known name is that of the well-known property. -/
theorem latest?_pairs {message : HubMessage} {key : String}
    (absent : message.properties.get? key = none) :
    latest? key (pairs message) = latest? key (wellKnown message) := by
  have application : latest? key message.properties.toList = none := by
    rw [← absent]
    exact latest?_of_ordered key message.properties.ordered
  rw [pairs_eq, latest?_append, application, Option.none_or]

/-- The well-known pairs of a message are those that its well-known properties make. -/
theorem wellKnown_congr {one other : HubMessage} (messageId : one.messageId = other.messageId)
    (correlationId : one.correlationId = other.correlationId)
    (contentType : one.contentType = other.contentType)
    (contentEncoding : one.contentEncoding = other.contentEncoding) :
    wellKnown one = wellKnown other := by
  rw [wellKnown, messageId, correlationId, contentType, contentEncoding, wellKnown]

theorem pairs_eq_iff {one other : HubMessage} (keeps : KeepsNames one) (keeps' : KeepsNames other) :
    pairs one = pairs other ↔ SameProperties one other := by
  constructor
  · intro same
    have known : ∀ key ∈ [messageIdKey, correlationIdKey, contentTypeKey, contentEncodingKey],
        latest? key (wellKnown one) = latest? key (wellKnown other) := by
      intro key listed
      rw [← latest?_pairs (keeps key listed), same, latest?_pairs (keeps' key listed)]
    simp only [List.forall_mem_cons, List.not_mem_nil, false_imp_iff, implies_true, and_true] at known
    obtain ⟨messageId, correlationId, contentType, contentEncoding⟩ := latest?_wellKnown one
    obtain ⟨messageId', correlationId', contentType', contentEncoding'⟩ := latest?_wellKnown other
    rw [messageId, messageId', correlationId, correlationId', contentType, contentType',
      contentEncoding, contentEncoding'] at known
    obtain ⟨messageId, correlationId, contentType, contentEncoding⟩ := known
    refine ⟨messageId, correlationId, contentType, contentEncoding, TextMap.ext ?_⟩
    rw [pairs_eq, pairs_eq, wellKnown_congr messageId correlationId contentType contentEncoding] at same
    exact List.append_cancel_left same
  · intro same
    rw [pairs_eq, pairs_eq, same.properties,
      wellKnown_congr same.messageId same.correlationId same.contentType same.contentEncoding]

end Bag

/-! ## The levels of a topic -/

namespace Hub

/-- The levels at the beginning of the telemetry topics of an identity. -/
def originLevels (identity : Identity) : List String :=
  "devices" :: identity.device :: (identity.module?.map fun name => ["modules", name]).getD []

theorem originLevels_injective : Function.Injective originLevels := by
  intro first second same
  obtain ⟨device, rest⟩ := List.cons.inj (List.cons.inj same).2
  refine Identity.eq_of_names device ?_
  cases one : first.module? <;> cases other : second.module? <;> simp_all

theorem length_originLevels (identity : Identity) :
    (originLevels identity).length = if identity.isModule then 4 else 2 := by
  cases hosted : identity.module? <;> simp [originLevels, Identity.isModule, hosted]

theorem telemetry_eq (identity : Identity) (message : HubMessage) :
    telemetry identity message =
      ofLevels (originLevels identity ++ ["messages", "events", Bag.encode message]) := by
  apply String.toList_inj.1
  cases hosted : identity.module? <;>
    simp [telemetry, origin, originLevels, ofLevels, Text.joinWith, hosted]

theorem levels_telemetry (identity : Identity) (message : HubMessage) :
    levels (telemetry identity message) =
      originLevels identity ++ ["messages", "events", Bag.encode message] := by
  rw [telemetry_eq]
  apply levels_ofLevels (by simp [originLevels])
  intro level member
  rcases List.mem_append.1 member with early | late
  · rcases List.mem_cons.1 early with rfl | named
    · decide
    · rcases List.mem_cons.1 named with rfl | hosted
      · exact slash_not_mem_device identity
      · cases found : identity.module? with
        | none => simp [found] at hosted
        | some name =>
          have undivided := (Identity.isName_of_mem_module? found).undivided
          simp only [found, Option.map_some, Option.getD_some, List.mem_cons, List.not_mem_nil,
            or_false] at hosted
          rcases hosted with rfl | rfl
          · decide
          · exact undivided
  · simp only [List.mem_cons, List.not_mem_nil, or_false] at late
    rcases late with rfl | rfl | rfl
    · decide
    · decide
    · exact Bag.slash_not_mem_encode message

theorem telemetry_eq_iff (first second : Identity) (one other : HubMessage) :
    telemetry first one = telemetry second other ↔
      first = second ∧ Bag.encode one = Bag.encode other := by
  constructor
  · intro same
    have cut := levels_telemetry first one
    rw [same, levels_telemetry] at cut
    obtain ⟨origins, rest⟩ := List.append_inj' cut rfl
    simp only [List.cons.injEq, true_and, and_true] at rest
    exact ⟨(originLevels_injective origins).symm, rest.symm⟩
  · rintro ⟨rfl, same⟩
    rw [telemetry, telemetry, same]

end Hub

end Topic

/-! ## The names of a connection -/

namespace Uplink.Options

theorem userNameOf_injective (settings : Settings.Hub) : Function.Injective (userNameOf settings) := by
  intro first second same
  rw [userNameOf, userNameOf, String.append_left_inj, String.append_left_inj,
    String.append_right_inj] at same
  exact Identity.toText_injective same

/-- A connection is made under the names of its identity, whatever its token and its certificate. -/
theorem names_of_eq_ok {settings : Settings.Hub} {identity : Identity} {token : Option String}
    {readable : String → Bool} {options : Options}
    (made : Options.of settings identity token readable = .ok options) :
    options.clientId = identity.toText ∧ options.userName = userNameOf settings identity := by
  unfold Options.of at made
  split at made
  case isTrue =>
    split at made
    case h_1 => cases made
    case h_2 =>
      split at made
      case isTrue =>
        obtain rfl := Except.ok.inj made
        exact ⟨rfl, rfl⟩
      case isFalse => cases made
  case isFalse =>
    obtain rfl := Except.ok.inj made
    exact ⟨rfl, rfl⟩

end Uplink.Options

/-! ## Telling messages apart -/

namespace Topic.Hub

open Bag (IsMark KeepsNames SameProperties)

/-- What it means that a hub tells two messages of two identities apart. -/
structure ToldApart (settings : Settings.Hub) (first second : Identity) (one other : HubMessage) :
    Prop where
  /-- A topic is shared only within one identity, and by messages with the same bag. -/
  topic : telemetry first one = telemetry second other ↔
    first = second ∧ Bag.encode one = Bag.encode other
  /-- Where the well-known names are left to the well-known properties, messages that share a topic agree
  in all their properties. -/
  content : KeepsNames one → KeepsNames other →
    (telemetry first one = telemetry second other ↔ first = second ∧ SameProperties one other)
  /-- The names under which an identity connects are those of no other identity. -/
  connection : ∀ token token' readable readable' options options',
    Uplink.Options.of settings first token readable = .ok options →
      Uplink.Options.of settings second token' readable' = .ok options' →
        (options.clientId = options'.clientId ↔ first = second) ∧
          (options.userName = options'.userName ↔ first = second)

/-- What it means that the topic of a message has the form that a hub expects. -/
structure WellFormed (identity : Identity) (message : HubMessage) : Prop where
  /-- The bag holds nothing but ASCII letters, digits and the marks of a bag, whatever the names and
  values of the properties hold. -/
  marks : ∀ c ∈ (Bag.encode message).toList, IsMark c
  plain : '/' ∉ (Bag.encode message).toList ∧ '+' ∉ (Bag.encode message).toList ∧
    '#' ∉ (Bag.encode message).toList
  levels : (Topic.levels (telemetry identity message)).length = if identity.isModule then 7 else 5

theorem wellFormed_telemetry (identity : Identity) (message : HubMessage) :
    WellFormed identity message where
  marks := fun _ => Bag.isMark_of_mem_encode
  plain := by
    have absent : ∀ c, ¬ IsMark c → c ∉ (Bag.encode message).toList :=
      fun _ strange member => strange (Bag.isMark_of_mem_encode member)
    exact ⟨absent '/' (by simp [IsMark]), absent '+' (by simp [IsMark]), absent '#' (by simp [IsMark])⟩
  levels := by
    rw [levels_telemetry, List.length_append, length_originLevels]
    cases identity.isModule <;> rfl

/-- Telemetry of different identities, or with different properties, never shares a topic, and different
identities never connect under the same names.  Every topic has as many levels as its kind of identity
says, since nothing in a bag can be taken for a slash or a wildcard. -/
theorem toldApart_telemetry (settings : Settings.Hub) (first second : Identity)
    (one other : HubMessage) :
    ToldApart settings first second one other ∧ WellFormed first one := by
  refine ⟨⟨telemetry_eq_iff first second one other, ?_, ?_⟩, wellFormed_telemetry first one⟩
  · intro keeps keeps'
    rw [telemetry_eq_iff, Bag.encode_eq_iff_pairs_eq, Bag.pairs_eq_iff keeps keeps']
  · intro token token' readable readable' options options' made made'
    obtain ⟨clientId, userName⟩ := Uplink.Options.names_of_eq_ok made
    obtain ⟨clientId', userName'⟩ := Uplink.Options.names_of_eq_ok made'
    rw [clientId, clientId', userName, userName']
    exact ⟨Identity.toText_injective.eq_iff, (Uplink.Options.userNameOf_injective settings).eq_iff⟩

/-- A property of the application with the name of a well-known one cannot be told from it. -/
example (identity : Identity) :
    telemetry identity { messageId := some "m1" } =
      telemetry identity { properties := TextMap.empty.insert "$.mid" "m1" } := by
  rw [telemetry_eq_iff, Bag.encode_eq_iff_pairs_eq]
  exact ⟨rfl, rfl⟩

end Topic.Hub

end DeviceGateway
