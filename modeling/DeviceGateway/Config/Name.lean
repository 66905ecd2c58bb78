/-
# Names of settings

The names of settings are the same in capital and in small letters; they are kept in small ones.  Names
inside the items of a list are not names of settings, and stay as they are written.
-/

namespace DeviceGateway.Config.Name

/-- The small form of a letter, as far as that is an ASCII letter.  The Kelvin sign is the one
character outside ASCII that has such a form. -/
def smallLetter (c : Char) : Char := if c = '\u212A' then 'k' else c.toLower

/-- A name in small letters. -/
def small (name : String) : String := String.ofList (name.toList.map smallLetter)

end DeviceGateway.Config.Name
