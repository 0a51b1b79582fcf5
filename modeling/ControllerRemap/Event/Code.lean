/-! The numbers of the codes that the profiles read or send. -/

namespace ControllerRemap.Code

/-! ### Keys -/

def keyEsc : UInt16 := 1
def keyTab : UInt16 := 15
def keyEnter : UInt16 := 28
def keyLeftCtrl : UInt16 := 29
def keyLeftShift : UInt16 := 42
def keyLeftAlt : UInt16 := 56
def keySpace : UInt16 := 57
def keyUp : UInt16 := 103
def keyPageUp : UInt16 := 104
def keyLeft : UInt16 := 105
def keyRight : UInt16 := 106
def keyDown : UInt16 := 108
def keyPageDown : UInt16 := 109
def keyLeftMeta : UInt16 := 125

/-! ### Buttons -/

def btnLeft : UInt16 := 0x110
def btnRight : UInt16 := 0x111
def btnMiddle : UInt16 := 0x112
def btnSide : UInt16 := 0x113
def btnExtra : UInt16 := 0x114
def btnThumb : UInt16 := 0x121
def btnThumb2 : UInt16 := 0x122
def btnSouth : UInt16 := 0x130
def btnEast : UInt16 := 0x131
def btnNorth : UInt16 := 0x133
def btnWest : UInt16 := 0x134
def btnTL : UInt16 := 0x136
def btnTR : UInt16 := 0x137
def btnTL2 : UInt16 := 0x138
def btnTR2 : UInt16 := 0x139
def btnSelect : UInt16 := 0x13a
def btnStart : UInt16 := 0x13b
def btnMode : UInt16 := 0x13c
def btnThumbL : UInt16 := 0x13d
def btnThumbR : UInt16 := 0x13e
def btnToolFinger : UInt16 := 0x145
def btnGearDown : UInt16 := 0x150
def btnGearUp : UInt16 := 0x151

/-! ### Axes -/

def relX : UInt16 := 0
def relY : UInt16 := 1
def relWheel : UInt16 := 8

def absX : UInt16 := 0
def absY : UInt16 := 1
def absZ : UInt16 := 2
def absRX : UInt16 := 3
def absRY : UInt16 := 4
def absRZ : UInt16 := 5
def absHat0X : UInt16 := 0x10
def absHat0Y : UInt16 := 0x11
def absHat2X : UInt16 := 0x14
def absHat2Y : UInt16 := 0x15

end ControllerRemap.Code
