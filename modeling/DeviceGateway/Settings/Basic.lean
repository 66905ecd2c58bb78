/-
# Settings of the program

All settings together: what to log, how to reach the hub, how links behave and which sessions to open.
Every section may be missing.
-/

import DeviceGateway.Identity
import DeviceGateway.Settings.Hub
import DeviceGateway.Settings.Level
import DeviceGateway.Settings.Link

namespace DeviceGateway.Settings

/-- What to log, and where. -/
structure General where
  logLevel : String := "info"
  logDir : String := "logs"
deriving DecidableEq, Repr, Inhabited

namespace General

/-- The level of logging, if the configured text is one. -/
def level? (settings : General) : Option Level := Level.parse? settings.logLevel

/-- The section is given as a record. -/
def reader : Reader General := fun format part => do
  let default : General := {}
  let given ← format.fields ["log_level", "log_dir"] part
  let logLevel ← given.get "log_level" format.text default.logLevel
  let logDir ← given.get "log_dir" format.text default.logDir
  return { logLevel, logDir }

end General

/-- A session that is opened at the start. -/
structure SessionEntry where
  identity : Identity
  /-- The token that is presented as password. -/
  sasToken : Option String
deriving DecidableEq

namespace SessionEntry

/-- An entry is given as a record in which the identity has to be there. -/
def reader : Reader SessionEntry := fun format part => do
  let given ← format.fields ["id", "sas_token"] part
  let identity ← given.require "id" (Identity.reader format)
  let sasToken ← given.get "sas_token" (format.optional format.text) none
  return { identity, sasToken }

end SessionEntry

/-- All settings. -/
structure Document where
  general : General := {}
  hub : Hub := {}
  link : Link := {}
  identities : List SessionEntry := []
deriving DecidableEq, Inhabited

namespace Document

/-- The settings are given as a record. -/
def reader : Reader Document := fun format part => do
  let default : Document := {}
  let given ← format.fields ["general", "upstream", "link", "identities"] part
  let general ← given.get "general" (General.reader format) default.general
  let hub ← given.get "upstream" (Hub.reader format) default.hub
  let link ← given.get "link" (Link.reader format) default.link
  let identities ←
    given.get "identities" (format.list (SessionEntry.reader format)) default.identities
  return { general, hub, link, identities }

/-- The JSON form of the settings. -/
def shape : Json.Shape Document := .of reader

end Document

end DeviceGateway.Settings
