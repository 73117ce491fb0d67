import ChipEight.Settings

/-!
# Keys of the host

The keys of a keyboard, by their names. Most keys are named by the character on them, the others by
words, and some of those by several.
-/

namespace ChipEight.Host

inductive HostKey
  /-- A key that makes a character. -/
  | character (c : Char)
  | named (name : String)
  deriving DecidableEq, Repr

namespace HostKey

def escape : HostKey := .character '\x1b'

/-- The keys that make a character without showing it. -/
def characterNames : List (String × Char) := [
  ("space", ' '), ("return", '\r'), ("escape", '\x1b'), ("tab", '\t'), ("backspace", '\x08'), ("delete", '\x7f')]

/-- The keys that make no character, or one that another key makes too. -/
def otherNames : List String := [
  "capslock", "f1", "f2", "f3", "f4", "f5", "f6", "f7", "f8", "f9", "f10", "f11", "f12", "printscreen", "scrolllock",
  "pause", "insert", "home", "pageup", "end", "pagedown", "right", "left", "down", "up", "numlock", "keypad /",
  "keypad *", "keypad -", "keypad +", "keypad enter", "keypad 1", "keypad 2", "keypad 3", "keypad 4", "keypad 5",
  "keypad 6", "keypad 7", "keypad 8", "keypad 9", "keypad 0", "keypad .", "application", "power", "keypad =", "f13",
  "f14", "f15", "f16", "f17", "f18", "f19", "f20", "f21", "f22", "f23", "f24", "execute", "help", "menu", "select",
  "stop", "again", "undo", "cut", "copy", "paste", "find", "mute", "volumeup", "volumedown", "keypad ,",
  "keypad = (as400)", "alterase", "sysreq", "cancel", "clear", "prior", "separator", "out", "oper", "clear / again",
  "crsel", "exsel", "keypad 00", "keypad 000", "thousandsseparator", "decimalseparator", "currencyunit",
  "currencysubunit", "keypad (", "keypad )", "keypad \x7b", "keypad \x7d", "keypad tab", "keypad backspace",
  "keypad a", "keypad b", "keypad c", "keypad d", "keypad e", "keypad f", "keypad xor", "keypad ^", "keypad %",
  "keypad <", "keypad >", "keypad &", "keypad &&", "keypad |", "keypad ||", "keypad :", "keypad #", "keypad space",
  "keypad @", "keypad !", "keypad memstore", "keypad memrecall", "keypad memclear", "keypad memadd",
  "keypad memsubtract", "keypad memmultiply", "keypad memdivide", "keypad +/-", "keypad clear", "keypad clearentry",
  "keypad binary", "keypad octal", "keypad decimal", "keypad hexadecimal", "left ctrl", "left shift", "left alt",
  "left gui", "right ctrl", "right shift", "right alt", "right gui", "modeswitch", "audionext", "audioprev",
  "audiostop", "audioplay", "audiomute", "mediaselect", "www", "mail", "calculator", "computer", "ac search",
  "ac home", "ac back", "ac forward", "ac stop", "ac refresh", "ac bookmarks", "brightnessdown", "brightnessup",
  "displayswitch", "kbdillumtoggle", "kbdillumdown", "kbdillumup", "eject", "sleep", "app1", "app2", "audiorewind",
  "audiofastforward", "softleft", "softright", "call", "endcall"]

/-- Second names of keys. -/
def secondNames : List (String × String) := [
  ("caps lock", "capslock"), ("print screen", "printscreen"), ("scroll lock", "scrolllock"), ("break", "pause"),
  ("page up", "pageup"), ("page down", "pagedown"), ("enter", "keypad enter"), ("equals", "keypad ="),
  ("sys req", "sysreq"), ("euro", "currencyunit"), ("left meta", "left gui"), ("right meta", "right gui"),
  ("alt gr", "modeswitch"), ("[0]", "keypad 0"), ("[1]", "keypad 1"), ("[2]", "keypad 2"), ("[3]", "keypad 3"),
  ("[4]", "keypad 4"), ("[5]", "keypad 5"), ("[6]", "keypad 6"), ("[7]", "keypad 7"), ("[8]", "keypad 8"),
  ("[9]", "keypad 9"), ("[.]", "keypad ."), ("[/]", "keypad /"), ("[*]", "keypad *"), ("[-]", "keypad -"),
  ("[+]", "keypad +")]

/-- The key of a name; capital letters count as small ones. -/
def ofName? (name : String) : Option HostKey :=
  match name.toList.map Char.toLower with
  | [c] => if c.toNat = 0 then none else some (.character c)
  | chars =>
    let name := String.ofList chars
    let name := (secondNames.lookup name).getD name
    match characterNames.lookup name with
    | some c => some (.character c)
    | none => if otherNames.contains name then some (.named name) else none

end HostKey

/-- Which keys of the host stand for which keys of the keypad. -/
abbrev Bindings := List (HostKey × Key)

namespace Bindings

/-- The key of the keypad that a key of the host stands for. Of several bindings the last counts. -/
def key? (b : Bindings) (hostKey : HostKey) : Option Key :=
  b.reverse.lookup hostKey

/-- The bindings of a keymap, or the first name in it that no key of the host has. -/
def ofKeymap (keymap : Keymap) : Except String Bindings :=
  keymap.mapM fun (name, key) =>
    match HostKey.ofName? name with
    | some hostKey => .ok (hostKey, key)
    | none => .error name

end Bindings

end ChipEight.Host
