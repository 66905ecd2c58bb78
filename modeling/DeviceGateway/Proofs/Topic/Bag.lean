/-
# Reading a property bag back

What a message is sent with comes back when the hub sends it on: the bag at the end of a telemetry topic,
put behind the topic of a message to a device, is read as the message with the same well-known properties
and the same properties of the application.  Only names that belong to the hub make a difference.  A
property of the application whose name belongs to the hub does not come back as one; and if its name is
that of a well-known property, it replaces that property, since it stands later in the bag.
-/

import DeviceGateway.Proofs.Entries
import DeviceGateway.Proofs.Identity
import DeviceGateway.Proofs.Text.Percent
import DeviceGateway.Proofs.Text.Split
import DeviceGateway.Topic.Hub

namespace DeviceGateway

namespace Topic.Bag

/-! ## From a text to pairs -/

theorem decodePair_encodePair (pair : String × String) : decodePair (encodePair pair) = pair := by
  have absent : '=' ∉ Percent.encode pair.1 := Percent.not_mem_encode (by decide) (by decide) _
  rw [decodePair, encodePair, Text.splitFirst_append absent]
  simp only [Percent.decode_encode]

theorem ampersand_not_mem_encodePair (pair : String × String) : '&' ∉ encodePair pair := by
  have absent : ∀ text, '&' ∉ Percent.encode text :=
    fun text => Percent.not_mem_encode (by decide) (by decide) text
  simp [encodePair, absent]

/-- The pairs of a bag are those it was joined from. -/
theorem decode_joinWith (pairs : List (String × String)) :
    decode (Text.joinWith '&' (pairs.map encodePair)) = pairs := by
  cases pairs with
  | nil => rfl
  | cons pair more =>
    have absent : ∀ piece ∈ (pair :: more).map encodePair, '&' ∉ piece := by
      intro piece member
      obtain ⟨pair, _, rfl⟩ := List.mem_map.1 member
      exact ampersand_not_mem_encodePair pair
    have filled : ∀ piece ∈ (pair :: more).map encodePair, (!piece.isEmpty) = true := by
      intro piece member
      obtain ⟨pair, _, rfl⟩ := List.mem_map.1 member
      simp [encodePair]
    rw [decode, Text.splitAll_joinWith (by simp) absent, List.filter_eq_self.2 filled, List.map_map]
    exact List.map_id'' decodePair_encodePair _

theorem decode_encode (message : HubMessage) : decode (encode message).toList = pairs message := by
  rw [encode, String.toList_ofList, decode_joinWith]

/-! ## Names that belong to the hub -/

theorem isSome_afterStart_iff (start text : String) :
    (Text.afterStart start.toList text.toList).isSome = true ↔ ∃ rest, text = start ++ rest := by
  rw [Option.isSome_iff_exists]
  constructor
  · rintro ⟨rest, found⟩
    refine ⟨String.ofList rest, String.toList_injective ?_⟩
    rw [Text.afterStart_eq_some_iff.1 found, String.toList_append, String.toList_ofList]
  · rintro ⟨rest, rfl⟩
    exact ⟨rest.toList, by rw [String.toList_append, Text.afterStart_append]⟩

theorem isReserved_iff (key : String) :
    isReserved key = true ↔ (∃ rest, key = "$." ++ rest) ∨ ∃ rest, key = "iothub-" ++ rest := by
  rw [isReserved, Bool.or_eq_true, isSome_afterStart_iff, isSome_afterStart_iff]

/-! ## From pairs to fields -/

/-- The value of the last pair with a name. -/
def latest? (key : String) : List (String × String) → Option String
  | [] => none
  | pair :: rest => (latest? key rest).or (if pair.1 = key then some pair.2 else none)

theorem latest?_append (key : String) (first second : List (String × String)) :
    latest? key (first ++ second) = (latest? key second).or (latest? key first) := by
  induction first with
  | nil => simp [latest?]
  | cons pair first ih => rw [List.cons_append, latest?, ih, latest?, Option.or_assoc]

theorem latest?_of_not_mem {key : String} {pairs : List (String × String)}
    (absent : ∀ pair ∈ pairs, pair.1 ≠ key) : latest? key pairs = none := by
  induction pairs with
  | nil => rfl
  | cons pair rest ih =>
    rw [latest?, ih fun pair member => absent pair (List.mem_cons_of_mem _ member),
      if_neg (absent pair List.mem_cons_self), Option.or_none]

/-- Where the names ascend, the last pair with a name is the only one. -/
theorem latest?_of_ordered (key : String) {entries : List (String × String)}
    (ordered : Entries.Ordered entries) : latest? key entries = Entries.get? key entries := by
  induction entries with
  | nil => rfl
  | cons entry rest ih =>
    obtain ⟨above, ordered⟩ := List.pairwise_cons.1 ordered
    rw [latest?, Entries.get?]
    by_cases same : key = entry.1
    · have absent : ∀ pair ∈ rest, pair.1 ≠ key := by
        intro pair member again
        exact String.lt_irrefl _ (again.trans same ▸ above pair member)
      rw [latest?_of_not_mem absent, if_pos same.symm, if_pos same, Option.none_or]
    · rw [if_neg (Ne.symm same), if_neg same, Option.or_none, ih ordered]

/-- What a message has under a well-known name, given the pairs of a bag one by one. -/
def IsField (key : String) (field : HubMessage → Option String) : Prop :=
  ∀ message pair, field (apply message pair) = if pair.1 = key then some pair.2 else field message

theorem IsField.foldl {key : String} {field : HubMessage → Option String} (isField : IsField key field)
    (pairs : List (String × String)) (message : HubMessage) :
    field (pairs.foldl apply message) = (latest? key pairs).or (field message) := by
  induction pairs generalizing message with
  | nil => rfl
  | cons pair rest ih =>
    rw [List.foldl_cons, ih, isField, latest?, Option.or_assoc]
    split <;> rfl

theorem isField_messageId : IsField messageIdKey HubMessage.messageId := by
  intro message pair
  simp only [apply]
  split_ifs <;> simp_all

theorem isField_correlationId : IsField correlationIdKey HubMessage.correlationId := by
  intro message pair
  simp only [apply]
  split_ifs <;> simp_all [messageIdKey, correlationIdKey]

theorem isField_contentType : IsField contentTypeKey HubMessage.contentType := by
  intro message pair
  simp only [apply]
  split_ifs <;> simp_all [messageIdKey, correlationIdKey, contentTypeKey]

theorem isField_contentEncoding : IsField contentEncodingKey HubMessage.contentEncoding := by
  intro message pair
  simp only [apply]
  split_ifs <;> simp_all [messageIdKey, correlationIdKey, contentTypeKey, contentEncodingKey]

/-- A name that belongs to the hub is no property of the application. -/
theorem properties_apply (message : HubMessage) (pair : String × String) :
    (apply message pair).properties =
      if isReserved pair.1 then message.properties else message.properties.insert pair.1 pair.2 := by
  have wellKnown : ∀ key ∈ [messageIdKey, correlationIdKey, contentTypeKey, contentEncodingKey],
      isReserved key = true := by decide
  simp only [apply]
  split_ifs <;> simp_all

/-- The body and what no pair speaks of stay as they are. -/
structure SameRest (before after : HubMessage) : Prop where
  body : after.body = before.body
  lockToken : after.lockToken = before.lockToken
  enqueuedTime : after.enqueuedTime = before.enqueuedTime

theorem sameRest_apply (message : HubMessage) (pair : String × String) :
    SameRest message (apply message pair) := by
  simp only [apply]
  split_ifs <;> exact ⟨rfl, rfl, rfl⟩

theorem sameRest_foldl (pairs : List (String × String)) (message : HubMessage) :
    SameRest message (pairs.foldl apply message) := by
  induction pairs generalizing message with
  | nil => exact ⟨rfl, rfl, rfl⟩
  | cons pair rest ih =>
    have first := sameRest_apply message pair
    have later := ih (apply message pair)
    exact ⟨later.body.trans first.body, later.lockToken.trans first.lockToken,
      later.enqueuedTime.trans first.enqueuedTime⟩

theorem properties_foldl_of_reserved {pairs : List (String × String)}
    (reserved : ∀ pair ∈ pairs, isReserved pair.1 = true) (message : HubMessage) :
    (pairs.foldl apply message).properties = message.properties := by
  induction pairs generalizing message with
  | nil => rfl
  | cons pair rest ih =>
    rw [List.foldl_cons, ih fun pair member => reserved pair (List.mem_cons_of_mem _ member),
      properties_apply, if_pos (reserved pair List.mem_cons_self)]

/-- Pairs whose names ascend become properties in the order in which they stand. -/
theorem properties_foldl_of_ordered {pairs : List (String × String)} (ordered : Entries.Ordered pairs)
    (message : HubMessage)
    (below : ∀ entry ∈ message.properties.entries, ∀ pair ∈ pairs, entry.1 < pair.1) :
    (pairs.foldl apply message).properties.entries =
      message.properties.entries ++ pairs.filter fun pair => !isReserved pair.1 := by
  induction pairs generalizing message with
  | nil => simp
  | cons pair rest ih =>
    obtain ⟨above, ordered⟩ := List.pairwise_cons.1 ordered
    have behind : ∀ entry ∈ message.properties.entries, entry.1 < pair.1 :=
      fun entry member => below entry member pair List.mem_cons_self
    have beyond : ∀ entry ∈ message.properties.entries, ∀ pair ∈ rest, entry.1 < pair.1 :=
      fun entry member other later => below entry member other (List.mem_cons_of_mem _ later)
    rw [List.foldl_cons]
    by_cases reserved : isReserved pair.1 = true
    · have same : (apply message pair).properties = message.properties := by
        rw [properties_apply, if_pos reserved]
      rw [ih ordered _ (same ▸ beyond), same, List.filter_cons_of_neg (by simp [reserved])]
    · have grown : (apply message pair).properties.entries = message.properties.entries ++ [pair] := by
        rw [properties_apply, if_neg reserved]
        exact Entries.insert_of_after behind
      have beyond' : ∀ entry ∈ (apply message pair).properties.entries, ∀ pair ∈ rest,
          entry.1 < pair.1 := by
        intro entry member other later
        rw [grown, List.mem_append, List.mem_singleton] at member
        rcases member with old | rfl
        · exact beyond entry old other later
        · exact above other later
      rw [ih ordered _ beyond', grown, List.filter_cons_of_pos (by simp [reserved]), List.append_assoc,
        List.singleton_append]

/-! ## What comes back -/

/-- The pairs of the well-known properties of a message. -/
def wellKnown (message : HubMessage) : List (String × String) :=
  [(messageIdKey, message.messageId), (correlationIdKey, message.correlationId),
    (contentTypeKey, message.contentType), (contentEncodingKey, message.contentEncoding)].filterMap
      fun entry => entry.2.map fun value => (entry.1, value)

theorem pairs_eq (message : HubMessage) :
    pairs message = wellKnown message ++ message.properties.toList := rfl

theorem isReserved_of_mem_wellKnown {message : HubMessage} {pair : String × String}
    (member : pair ∈ wellKnown message) : isReserved pair.1 = true := by
  have keys : ∀ key ∈ [messageIdKey, correlationIdKey, contentTypeKey, contentEncodingKey],
      isReserved key = true := by decide
  apply keys
  obtain ⟨entry, listed, found⟩ := List.mem_filterMap.1 member
  obtain ⟨value, _, rfl⟩ := Option.map_eq_some_iff.1 found
  simp only [List.mem_cons, List.not_mem_nil, or_false] at listed ⊢
  rcases listed with rfl | rfl | rfl | rfl <;> simp

theorem latest?_wellKnown (message : HubMessage) :
    latest? messageIdKey (wellKnown message) = message.messageId ∧
      latest? correlationIdKey (wellKnown message) = message.correlationId ∧
      latest? contentTypeKey (wellKnown message) = message.contentType ∧
      latest? contentEncodingKey (wellKnown message) = message.contentEncoding := by
  cases h₁ : message.messageId <;> cases h₂ : message.correlationId <;>
    cases h₃ : message.contentType <;> cases h₄ : message.contentEncoding <;>
    simp [wellKnown, latest?, h₁, h₂, h₃, h₄, messageIdKey, correlationIdKey, contentTypeKey,
      contentEncodingKey]

/-- What it means that a message came back with another payload. -/
structure ReadBack (sent : HubMessage) (payload : Bytes) (back : HubMessage) : Prop where
  body : back.body = payload
  /-- All properties of the application whose names do not belong to the hub come back, and no others. -/
  properties : ∀ key value, (key, value) ∈ back.properties.toList ↔
    (key, value) ∈ sent.properties.toList ∧ (∀ rest, key ≠ "$." ++ rest) ∧
      ∀ rest, key ≠ "iothub-" ++ rest
  /-- A well-known property comes back unless a property of the application has its name. -/
  messageId : back.messageId = (sent.properties.get? "$.mid").or sent.messageId
  correlationId : back.correlationId = (sent.properties.get? "$.cid").or sent.correlationId
  contentType : back.contentType = (sent.properties.get? "$.ct").or sent.contentType
  contentEncoding : back.contentEncoding = (sent.properties.get? "$.ce").or sent.contentEncoding
  lockToken : back.lockToken = back.messageId
  enqueuedTime : back.enqueuedTime = none
  /-- A message with no such names comes back as it was, whatever its names and values hold. -/
  unchanged : (∀ key value, (key, value) ∈ sent.properties.toList →
      (∀ rest, key ≠ "$." ++ rest) ∧ ∀ rest, key ≠ "iothub-" ++ rest) →
    back = { sent with body := payload, lockToken := sent.messageId, enqueuedTime := none }

section

variable {message back : HubMessage} {body : Bytes}
  (gathered : (decode (encode message).toList).foldl apply { body } = back)

include gathered

/-- The properties of the application that come back, in their order. -/
theorem entries_gathered : back.properties.entries =
    message.properties.entries.filter fun entry => !isReserved entry.1 := by
  have early := properties_foldl_of_reserved (fun _ => @isReserved_of_mem_wellKnown message _) { body }
  have blank : ((wellKnown message).foldl apply { body }).properties.entries = [] := by
    rw [early]
    rfl
  rw [decode_encode, pairs_eq, List.foldl_append] at gathered
  have later := properties_foldl_of_ordered message.properties.ordered
    ((wellKnown message).foldl apply { body }) (by rw [blank]; exact nofun)
  rw [blank, List.nil_append] at later
  rw [← gathered]
  exact later

/-- A well-known property that comes back. -/
theorem IsField.comesBack {key : String} {field : HubMessage → Option String}
    (isField : IsField key field) (blank : field { body } = none) {own : Option String}
    (sent : latest? key (wellKnown message) = own) :
    field back = (message.properties.get? key).or own := by
  have application : latest? key message.properties.toList = message.properties.get? key :=
    latest?_of_ordered key message.properties.ordered
  rw [← gathered, decode_encode, isField.foldl, pairs_eq, latest?_append, application, sent, blank,
    Option.or_none]

/-- Where no name belongs to the hub, no property takes the place of another. -/
theorem IsField.unchanged {key : String} {field : HubMessage → Option String}
    (isField : IsField key field) (blank : field { body } = none) {own : Option String}
    (sent : latest? key (wellKnown message) = own) (reserved : isReserved key = true)
    (plain : ∀ entry ∈ message.properties.entries, isReserved entry.1 = false) : field back = own := by
  have absent : latest? key message.properties.entries = none := by
    apply latest?_of_not_mem
    rintro entry member rfl
    rw [plain entry member] at reserved
    cases reserved
  rw [latest?_of_ordered key message.properties.ordered] at absent
  rw [isField.comesBack gathered blank sent, TextMap.get?, absent, Option.none_or]

theorem unchanged_gathered
    (plain : ∀ entry ∈ message.properties.entries, isReserved entry.1 = false) :
    { back with lockToken := back.messageId } =
      { message with body, lockToken := message.messageId, enqueuedTime := none } := by
  have rest : SameRest { body } back := gathered ▸ sameRest_foldl _ _
  have properties : back.properties = message.properties := by
    apply TextMap.ext
    rw [entries_gathered gathered, List.filter_eq_self]
    intro entry member
    rw [plain entry member]
    rfl
  obtain ⟨messageId, correlationId, contentType, contentEncoding⟩ := latest?_wellKnown message
  have messageId := isField_messageId.unchanged gathered rfl messageId (by decide) plain
  have correlationId := isField_correlationId.unchanged gathered rfl correlationId (by decide) plain
  have contentType := isField_contentType.unchanged gathered rfl contentType (by decide) plain
  have contentEncoding := isField_contentEncoding.unchanged gathered rfl contentEncoding (by decide) plain
  rw [HubMessage.mk.injEq]
  exact ⟨rest.body, properties, messageId, messageId, correlationId, contentType, contentEncoding,
    rest.enqueuedTime⟩

theorem readBack_gathered : ReadBack message body { back with lockToken := back.messageId } := by
  have rest : SameRest { body } back := gathered ▸ sameRest_foldl _ _
  have entries := entries_gathered gathered
  have plain : ∀ key, isReserved key = false ↔
      (∀ rest, key ≠ "$." ++ rest) ∧ ∀ rest, key ≠ "iothub-" ++ rest := by
    intro key
    rw [← Bool.not_eq_true, isReserved_iff, not_or, not_exists, not_exists]
  obtain ⟨messageId, correlationId, contentType, contentEncoding⟩ := latest?_wellKnown message
  constructor
  case body => exact rest.body
  case properties =>
    intro key value
    rw [TextMap.toList, entries, List.mem_filter, Bool.not_eq_true', plain]
    rfl
  case messageId => exact isField_messageId.comesBack gathered rfl messageId
  case correlationId => exact isField_correlationId.comesBack gathered rfl correlationId
  case contentType => exact isField_contentType.comesBack gathered rfl contentType
  case contentEncoding => exact isField_contentEncoding.comesBack gathered rfl contentEncoding
  case lockToken => rfl
  case enqueuedTime => exact rest.enqueuedTime
  case unchanged =>
    intro free
    exact unchanged_gathered gathered fun entry member =>
      (plain entry.1).2 (free entry.1 entry.2 member)

end

/-! ## Topics -/

/-- The name of a device holds no slash, so that the part of a topic that says what the message is for is
found where it stands, even if the device has the name of a word of that part. -/
theorem afterPart_deviceMessages {device : List Char} (undivided : '/' ∉ device) (bag : List Char) :
    Text.afterPart "/messages/devicebound/".toList
        ("devices".toList ++ '/' :: (device ++ ("/messages/devicebound/".toList ++ bag))) = some bag := by
  have part : "/messages/devicebound/".toList = '/' :: ("messages".toList ++ '/' :: "devicebound/".toList) :=
    rfl
  have tooEarly : Text.afterStart "/messages/devicebound/".toList
      ('/' :: (device ++ ("/messages/devicebound/".toList ++ bag))) = none := by
    rw [Option.eq_none_iff_forall_not_mem]
    intro rest found
    have same := Text.afterStart_eq_some_iff.1 found
    simp only [part, List.cons_append, List.append_assoc, List.cons.injEq, true_and] at same
    obtain ⟨rfl, next⟩ := Text.append_separator_inj same undivided (by decide)
    exact absurd (List.cons.inj next).1 (by decide)
  have skipped := @Text.afterPart_append '/' "devices".toList (by decide)
    ("messages".toList ++ '/' :: "devicebound/".toList)
    ('/' :: (device ++ ("/messages/devicebound/".toList ++ bag)))
  have passed := Text.afterPart_append undivided ("messages".toList ++ '/' :: "devicebound/".toList)
    ("/messages/devicebound/".toList ++ bag)
  rw [← part] at skipped passed
  rw [skipped, Text.afterPart, tooEarly]
  simp only
  rw [passed, Text.afterPart_start]

end Topic.Bag

namespace Topic.Hub

open Bag (ReadBack)

theorem slash_not_mem_device (identity : Identity) : '/' ∉ identity.device.toList :=
  identity.isName_device.undivided

/-- What stands behind the topic of a message to the device is read as its bag, whatever it is. -/
theorem parseDeviceMessage_append (identity : Identity) (bag : String) (payload : Bytes) :
    parseDeviceMessage ("devices/" ++ identity.device ++ "/messages/devicebound/" ++ bag) payload =
      .ok (Bag.toMessage payload bag.toList) := by
  have topic : ("devices/" ++ identity.device ++ "/messages/devicebound/" ++ bag).toList =
      "devices".toList ++ '/' :: (identity.device.toList ++
        ("/messages/devicebound/".toList ++ bag.toList)) := by
    simp only [String.toList_append, List.append_assoc]
    rfl
  rw [parseDeviceMessage, topic,
    Bag.afterPart_deviceMessages (slash_not_mem_device identity)]

theorem parseDeviceMessage_bag (identity : Identity) (message : HubMessage) (payload : Bytes) :
    ∃ back, parseDeviceMessage ("devices/" ++ identity.device ++ "/messages/devicebound/" ++
        Bag.encode message) payload = .ok back ∧ ReadBack message payload back :=
  ⟨_, parseDeviceMessage_append identity (Bag.encode message) payload, Bag.readBack_gathered rfl⟩

/-- Reading a property bag back undoes writing it.  The bag at the end of the telemetry topic of any
message of any device or module, put behind the topic of a message to the device, is read as a message
with the payload at hand and the properties that were sent. -/
theorem readBack_telemetry (identity : Identity) (message : HubMessage) (payload : Bytes) :
    ∃ bag, telemetry identity message = origin identity ++ "/messages/events/" ++ bag ∧
      ∃ back, parseDeviceMessage ("devices/" ++ identity.device ++ "/messages/devicebound/" ++ bag)
          payload = .ok back ∧ ReadBack message payload back :=
  ⟨Bag.encode message, rfl, parseDeviceMessage_bag identity message payload⟩

end Topic.Hub

end DeviceGateway
