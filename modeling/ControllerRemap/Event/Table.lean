import ControllerRemap.Event.Basic

/-! The names of the event codes that a configuration may use, as the Linux input
subsystem spells them. Where several names stand for one channel, the first is
its canonical name and the others are aliases. -/

namespace ControllerRemap.Event

/-- Synchronisation codes. -/
def synNames : List (String × UInt16) := [
  ("SYN_REPORT", 0), ("SYN_CONFIG", 1), ("SYN_MT_REPORT", 2), ("SYN_DROPPED", 3)]

/-- Keys and buttons; the last five names are aliases. -/
def keyNames : List (String × UInt16) := [
  ("KEY_ESC", 1), ("KEY_1", 2), ("KEY_2", 3), ("KEY_3", 4), ("KEY_4", 5), ("KEY_5", 6),
  ("KEY_6", 7), ("KEY_7", 8), ("KEY_8", 9), ("KEY_9", 10), ("KEY_0", 11), ("KEY_MINUS", 12),
  ("KEY_EQUAL", 13), ("KEY_BACKSPACE", 14), ("KEY_TAB", 15), ("KEY_Q", 16), ("KEY_W", 17),
  ("KEY_E", 18), ("KEY_R", 19), ("KEY_T", 20), ("KEY_Y", 21), ("KEY_U", 22), ("KEY_I", 23),
  ("KEY_O", 24), ("KEY_P", 25), ("KEY_LEFTBRACE", 26), ("KEY_RIGHTBRACE", 27), ("KEY_ENTER", 28),
  ("KEY_LEFTCTRL", 29), ("KEY_A", 30), ("KEY_S", 31), ("KEY_D", 32), ("KEY_F", 33), ("KEY_G", 34),
  ("KEY_H", 35), ("KEY_J", 36), ("KEY_K", 37), ("KEY_L", 38), ("KEY_SEMICOLON", 39),
  ("KEY_APOSTROPHE", 40), ("KEY_GRAVE", 41), ("KEY_LEFTSHIFT", 42), ("KEY_BACKSLASH", 43),
  ("KEY_Z", 44), ("KEY_X", 45), ("KEY_C", 46), ("KEY_V", 47), ("KEY_B", 48), ("KEY_N", 49),
  ("KEY_M", 50), ("KEY_COMMA", 51), ("KEY_DOT", 52), ("KEY_SLASH", 53), ("KEY_RIGHTSHIFT", 54),
  ("KEY_KPASTERISK", 55), ("KEY_LEFTALT", 56), ("KEY_SPACE", 57), ("KEY_CAPSLOCK", 58),
  ("KEY_F1", 59), ("KEY_F2", 60), ("KEY_F3", 61), ("KEY_F4", 62), ("KEY_F5", 63), ("KEY_F6", 64),
  ("KEY_F7", 65), ("KEY_F8", 66), ("KEY_F9", 67), ("KEY_F10", 68), ("KEY_F11", 87),
  ("KEY_F12", 88), ("KEY_RIGHTCTRL", 97), ("KEY_RIGHTALT", 100), ("KEY_HOME", 102),
  ("KEY_UP", 103), ("KEY_PAGEUP", 104), ("KEY_LEFT", 105), ("KEY_RIGHT", 106), ("KEY_END", 107),
  ("KEY_DOWN", 108), ("KEY_PAGEDOWN", 109), ("KEY_INSERT", 110), ("KEY_DELETE", 111),
  ("KEY_MUTE", 113), ("KEY_VOLUMEDOWN", 114), ("KEY_VOLUMEUP", 115), ("KEY_LEFTMETA", 125),
  ("KEY_RIGHTMETA", 126), ("KEY_COMPOSE", 127), ("BTN_LEFT", 0x110), ("BTN_RIGHT", 0x111),
  ("BTN_MIDDLE", 0x112), ("BTN_SIDE", 0x113), ("BTN_EXTRA", 0x114), ("BTN_FORWARD", 0x115),
  ("BTN_BACK", 0x116), ("BTN_TRIGGER", 0x120), ("BTN_THUMB", 0x121), ("BTN_THUMB2", 0x122),
  ("BTN_SOUTH", 0x130), ("BTN_EAST", 0x131), ("BTN_C", 0x132), ("BTN_NORTH", 0x133),
  ("BTN_WEST", 0x134), ("BTN_Z", 0x135), ("BTN_TL", 0x136), ("BTN_TR", 0x137), ("BTN_TL2", 0x138),
  ("BTN_TR2", 0x139), ("BTN_SELECT", 0x13a), ("BTN_START", 0x13b), ("BTN_MODE", 0x13c),
  ("BTN_THUMBL", 0x13d), ("BTN_THUMBR", 0x13e), ("BTN_TOOL_PEN", 0x140),
  ("BTN_TOOL_FINGER", 0x145), ("BTN_TOUCH", 0x14a), ("BTN_GEAR_DOWN", 0x150),
  ("BTN_GEAR_UP", 0x151), ("BTN_DPAD_UP", 0x220), ("BTN_DPAD_DOWN", 0x221),
  ("BTN_DPAD_LEFT", 0x222), ("BTN_DPAD_RIGHT", 0x223), ("BTN_A", 0x130), ("BTN_B", 0x131),
  ("BTN_X", 0x133), ("BTN_Y", 0x134), ("BTN_GAMEPAD", 0x130)]

/-- Relative axes. -/
def relNames : List (String × UInt16) := [
  ("REL_X", 0x00), ("REL_Y", 0x01), ("REL_Z", 0x02), ("REL_RX", 0x03), ("REL_RY", 0x04),
  ("REL_RZ", 0x05), ("REL_HWHEEL", 0x06), ("REL_DIAL", 0x07), ("REL_WHEEL", 0x08),
  ("REL_MISC", 0x09), ("REL_WHEEL_HI_RES", 0x0b), ("REL_HWHEEL_HI_RES", 0x0c)]

/-- Absolute axes. -/
def absNames : List (String × UInt16) := [
  ("ABS_X", 0x00), ("ABS_Y", 0x01), ("ABS_Z", 0x02), ("ABS_RX", 0x03), ("ABS_RY", 0x04),
  ("ABS_RZ", 0x05), ("ABS_THROTTLE", 0x06), ("ABS_RUDDER", 0x07), ("ABS_WHEEL", 0x08),
  ("ABS_GAS", 0x09), ("ABS_BRAKE", 0x0a), ("ABS_HAT0X", 0x10), ("ABS_HAT0Y", 0x11),
  ("ABS_HAT1X", 0x12), ("ABS_HAT1Y", 0x13), ("ABS_HAT2X", 0x14), ("ABS_HAT2Y", 0x15),
  ("ABS_HAT3X", 0x16), ("ABS_HAT3Y", 0x17), ("ABS_PRESSURE", 0x18), ("ABS_DISTANCE", 0x19),
  ("ABS_TILT_X", 0x1a), ("ABS_TILT_Y", 0x1b), ("ABS_MISC", 0x28)]

/-- Every name with its channel, in the order in which names are looked up. -/
def table : List (String × Channel) :=
  synNames.map (fun (name, code) => (name, .syn code)) ++
  keyNames.map (fun (name, code) => (name, .key code)) ++
  relNames.map (fun (name, code) => (name, .rel code)) ++
  absNames.map (fun (name, code) => (name, .abs code))

end ControllerRemap.Event
