/-
# The parameters of a query

The topics of the hub's answers, requests and patches end in a query: parameters with an equals sign
between name and value, joined by ampersands.  A parameter is found by its name wherever it stands and
whatever stands beside it, so a topic is read as the values of the parameters that it needs, and not at
all if one of them is missing.
-/

import DeviceGateway.Proofs.Entries
import DeviceGateway.Proofs.Text.Numeral
import DeviceGateway.Proofs.Text.Split
import DeviceGateway.Topic.Hub

namespace DeviceGateway.Topic.Hub

/-- The parameters of a query in the order in which they are written.  Values may hold equals signs. -/
structure Query where
  parameters : List (String × String)
  distinct : (parameters.map Prod.fst).Nodup
  plain : ∀ parameter ∈ parameters, '&' ∉ parameter.1.toList ∧ '=' ∉ parameter.1.toList ∧
    '&' ∉ parameter.2.toList

namespace Query

/-- A parameter as it is written. -/
def writeParameter (parameter : String × String) : List Char :=
  parameter.1.toList ++ '=' :: parameter.2.toList

/-- The text of a query. -/
def write (query : Query) : String :=
  String.ofList ('?' :: Text.joinWith '&' (query.parameters.map writeParameter))

/-- Whether a query has a parameter with this name and value. -/
def Has (query : Query) (name value : String) : Prop := (name, value) ∈ query.parameters

/-- Whether a query has no parameter with this name. -/
def Lacks (query : Query) (name : String) : Prop := name ∉ query.parameters.map Prod.fst

/-- The value of a parameter. -/
def value? (query : Query) (name : String) : Option String := Entries.get? name query.parameters

variable {query : Query} {name value : String}

theorem value?_eq_some_iff : query.value? name = some value ↔ query.Has name value :=
  Entries.get?_eq_some_iff query.distinct

theorem value?_eq_none_iff : query.value? name = none ↔ query.Lacks name :=
  Entries.get?_eq_none_iff

theorem value?_congr {other : Query} (same : ∀ value, query.Has name value ↔ other.Has name value) :
    query.value? name = other.value? name := by
  apply Option.ext
  intro value
  rw [value?_eq_some_iff, value?_eq_some_iff, same]

/-! ## From the text to the parameters -/

theorem splitFirst_writeParameter {parameter : String × String}
    (plain : '=' ∉ parameter.1.toList) : Text.splitFirst '=' (writeParameter parameter) =
      some (parameter.1.toList, parameter.2.toList) :=
  Text.splitFirst_append plain _

theorem ampersand_not_mem_writeParameter {parameter : String × String}
    (member : parameter ∈ query.parameters) : '&' ∉ writeParameter parameter := by
  obtain ⟨name, _, value⟩ := query.plain parameter member
  simp [writeParameter, name, value]

/-- The pieces of a query that have an equals sign are its parameters, if there are any. -/
theorem pairs_write (query : Query) :
    (Text.splitAll '&' (Text.joinWith '&' (query.parameters.map writeParameter))).filterMap
        (Text.splitFirst '=') =
      query.parameters.map fun parameter => (parameter.1.toList, parameter.2.toList) := by
  by_cases empty : query.parameters = []
  · -- The empty text has one piece, without an equals sign.
    rw [empty]
    rfl
  · have absent : ∀ piece ∈ query.parameters.map writeParameter, '&' ∉ piece := by
      intro piece listed
      obtain ⟨parameter, member, rfl⟩ := List.mem_map.1 listed
      exact ampersand_not_mem_writeParameter member
    rw [Text.splitAll_joinWith (mt List.map_eq_nil_iff.1 empty) absent, List.filterMap_map,
      ← List.filterMap_eq_map]
    apply List.filterMap_congr
    intro parameter member
    exact splitFirst_writeParameter (query.plain parameter member).2.1

/-- The first pair with a name is the entry under this name. -/
theorem findSome?_pairs (name : String) (entries : List (String × String)) :
    (entries.map fun entry => (entry.1.toList, entry.2.toList)).findSome? (fun pair =>
        if pair.1 = name.toList then some pair.2 else none) =
      (Entries.get? name entries).map String.toList := by
  induction entries with
  | nil => rfl
  | cons entry rest ih =>
    rw [List.map_cons, List.findSome?_cons, Entries.get?, ih]
    by_cases same : name = entry.1
    · rw [if_pos (congrArg String.toList same.symm), if_pos same]
      rfl
    · rw [if_neg fun equal => same (String.toList_inj.1 equal).symm, if_neg same]

theorem parameter?_write (query : Query) (name : String) :
    parameter? query.write.toList name = (query.value? name).map String.toList := by
  rw [write, String.toList_ofList]
  simp only [parameter?, pairs_write, findSome?_pairs]
  rfl

theorem parameter?_write_eq_some_iff : parameter? query.write.toList name = some value.toList ↔
    query.Has name value := by
  rw [parameter?_write, ← value?_eq_some_iff, Option.map_eq_some_iff]
  simp only [String.toList_inj, exists_eq_right]

theorem parameter?_write_eq_none_iff :
    parameter? query.write.toList name = none ↔ query.Lacks name := by
  rw [parameter?_write, Option.map_eq_none_iff, value?_eq_none_iff]

/-! ## What the topics with a query say -/

/-- The topic of an answer to a twin request. -/
def twinResponse (query : Query) (status : UInt16) : String :=
  "$iothub/twin/res/" ++ (Numeral.ofNat status.toNat ++ "/" ++ query.write)

/-- The topic of a method request. -/
def methodRequest (query : Query) (name : String) : String :=
  "$iothub/methods/POST/" ++ (name ++ "/" ++ query.write)

/-- The topic of a patch to the desired section. -/
def desiredPatch (query : Query) : String := "$iothub/twin/PATCH/properties/desired/" ++ query.write

/-- The version that a query tells. -/
def version? (query : Query) : Option Int :=
  (query.value? "$version").bind fun version => Numeral.integer? version.toList

theorem version?_of_has {version : Int64}
    (has : query.Has "$version" (Numeral.ofInt version.toInt)) :
    query.version? = some version.toInt := by
  have fits : Word.fitsSigned version.toInt = true :=
    (Word.fitsSigned_iff _).2 ⟨version.le_toInt, version.toInt_lt⟩
  rw [version?, value?_eq_some_iff.2 has]
  exact Numeral.integer?_ofInt fits

theorem version?_of_lacks (lacks : query.Lacks "$version") : query.version? = none := by
  rw [version?, value?_eq_none_iff.2 lacks]
  rfl

theorem afterStart_toList (start rest : String) :
    Text.afterStart start.toList (start ++ rest).toList = some rest.toList := by
  rw [String.toList_append, Text.afterStart_append]

/-- What stands behind a beginning is cut at the first slash. -/
theorem splitFirst_slash {level : String} (undivided : '/' ∉ level.toList) (rest : String) :
    Text.splitFirst '/' (level ++ "/" ++ rest).toList = some (level.toList, rest.toList) := by
  have slash : (level ++ "/" ++ rest).toList = level.toList ++ '/' :: rest.toList := by simp
  rw [slash]
  exact Text.splitFirst_append undivided _

theorem parameter?_version_bind (query : Query) :
    (parameter? query.write.toList "$version").bind Numeral.integer? = query.version? := by
  rw [parameter?_write, version?, Option.bind_map]
  rfl

theorem parseTwinResponse?_twinResponse (query : Query) (status : UInt16) :
    parseTwinResponse? (query.twinResponse status) = (query.value? "$rid").map fun requestId =>
      { status := status.toNat, requestId, version := query.version? } := by
  have undivided : '/' ∉ (Numeral.ofNat status.toNat).toList := fun member =>
    absurd (Numeral.allDigits_ofNat _ _ member) (by decide)
  have fits : status.toNat ≤ 65535 := Nat.le_of_lt_succ status.toNat_lt
  unfold parseTwinResponse? twinResponse
  rw [afterStart_toList]
  simp only [Option.bind_eq_bind, Option.bind_some, splitFirst_slash undivided,
    Numeral.natural?_ofNat fits, parameter?_version_bind]
  rw [parameter?_write]
  cases query.value? "$rid" with
  | none => rfl
  | some requestId => simp

theorem parseMethodRequest?_methodRequest (query : Query) {name : String} (filled : name ≠ "")
    (undivided : '/' ∉ name.toList) : parseMethodRequest? (query.methodRequest name) =
      (query.value? "$rid").map fun requestId => (name, requestId) := by
  have nonempty : name.toList.isEmpty = false := by simpa using filled
  unfold parseMethodRequest? methodRequest
  rw [afterStart_toList]
  simp only [Option.bind_eq_bind, Option.bind_some, splitFirst_slash undivided, nonempty]
  rw [parameter?_write]
  cases query.value? "$rid" with
  | none => rfl
  | some requestId => simp

theorem parseDesiredVersion?_desiredPatch (query : Query) :
    parseDesiredVersion? query.desiredPatch = query.version? := by
  unfold parseDesiredVersion? desiredPatch
  rw [afterStart_toList]
  exact query.parameter?_version_bind

end Query

/-- What it means that a query is read as its parameters, whatever their order, and that the topics that
end in it are read as the parameters that they need. -/
structure ReadsParameters (query : Query) : Prop where
  value : ∀ name value,
    parameter? query.write.toList name = some value.toList ↔ query.Has name value
  missing : ∀ name, parameter? query.write.toList name = none ↔ query.Lacks name
  /-- Neither the order of the parameters nor the other ones play a part. -/
  independent : ∀ (other : Query) name, (∀ value, query.Has name value ↔ other.Has name value) →
    parameter? query.write.toList name = parameter? other.write.toList name
  /-- An answer tells its status and its request, and a version exactly if there is one. -/
  twinResponse : ∀ (status : UInt16) requestId, query.Has "$rid" requestId →
    (∀ version : Int64, query.Has "$version" (Numeral.ofInt version.toInt) →
      parseTwinResponse? (query.twinResponse status) =
        some { status := status.toNat, requestId, version := some version.toInt }) ∧
    (query.Lacks "$version" → parseTwinResponse? (query.twinResponse status) =
        some { status := status.toNat, requestId, version := none })
  methodRequest : ∀ name, name ≠ "" → '/' ∉ name.toList → ∀ requestId, query.Has "$rid" requestId →
    parseMethodRequest? (query.methodRequest name) = some (name, requestId)
  desiredVersion : ∀ version : Int64, query.Has "$version" (Numeral.ofInt version.toInt) →
    parseDesiredVersion? query.desiredPatch = some version.toInt
  /-- Nothing is read without the identifier of a request where one is needed. -/
  unidentified : query.Lacks "$rid" →
    (∀ status, parseTwinResponse? (query.twinResponse status) = none) ∧
    ∀ name, name ≠ "" → '/' ∉ name.toList → parseMethodRequest? (query.methodRequest name) = none
  unversioned : query.Lacks "$version" → parseDesiredVersion? query.desiredPatch = none

/-- Every query is read as its parameters. -/
theorem readsParameters (query : Query) : ReadsParameters query where
  value _ _ := Query.parameter?_write_eq_some_iff
  missing _ := Query.parameter?_write_eq_none_iff
  independent other name same := by
    rw [Query.parameter?_write, Query.parameter?_write, Query.value?_congr same]
  twinResponse status requestId has := by
    rw [query.parseTwinResponse?_twinResponse, Query.value?_eq_some_iff.2 has]
    refine ⟨?_, ?_⟩
    · intro version told
      rw [Query.version?_of_has told]
      rfl
    · intro lacks
      rw [Query.version?_of_lacks lacks]
      rfl
  methodRequest name filled undivided requestId has := by
    rw [query.parseMethodRequest?_methodRequest filled undivided, Query.value?_eq_some_iff.2 has]
    rfl
  desiredVersion version has := by
    rw [query.parseDesiredVersion?_desiredPatch, Query.version?_of_has has]
  unidentified lacks := by
    refine ⟨?_, ?_⟩
    · intro status
      rw [query.parseTwinResponse?_twinResponse, Query.value?_eq_none_iff.2 lacks]
      rfl
    · intro name filled undivided
      rw [query.parseMethodRequest?_methodRequest filled undivided, Query.value?_eq_none_iff.2 lacks]
      rfl
  unversioned lacks := by
    rw [query.parseDesiredVersion?_desiredPatch, Query.version?_of_lacks lacks]

/-- A query whose parameters stand in another order, among them one that no topic needs. -/
def reordered : Query where
  parameters := [("$version", "-3"), ("source", "a=b"), ("$rid", "7")]
  distinct := by decide
  plain := by decide

theorem readsParameters_reordered :
    reordered.write = "?$version=-3&source=a=b&$rid=7" ∧
      parameter? reordered.write.toList "source" = some "a=b".toList ∧
      parameter? reordered.write.toList "a" = none ∧
      parseTwinResponse? (reordered.twinResponse 204) =
        some { status := 204, requestId := "7", version := some (-3) } ∧
      parseMethodRequest? (reordered.methodRequest "reboot") = some ("reboot", "7") ∧
      parseDesiredVersion? reordered.desiredPatch = some (-3) := by
  have reads := readsParameters reordered
  have version : reordered.Has "$version" (Numeral.ofInt (-3 : Int64).toInt) :=
    List.mem_cons_self
  have requestId : reordered.Has "$rid" "7" := by simp [Query.Has, reordered]
  refine ⟨by decide, ?_, ?_, ?_, ?_, ?_⟩
  · exact (reads.value "source" "a=b").2 (by simp [Query.Has, reordered])
  · exact (reads.missing "a").2 (by simp [Query.Lacks, reordered])
  · exact (reads.twinResponse 204 "7" requestId).1 (-3) version
  · exact reads.methodRequest "reboot" (by decide) (by decide) "7" requestId
  · exact reads.desiredVersion (-3) version

end DeviceGateway.Topic.Hub
