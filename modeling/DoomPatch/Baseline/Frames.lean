import DoomPatch.Frame

/-!
# The frames of the unpatched game

The 967 frames by number, each with the label it is known by.  Sprites and following frames are given by
number; a picture from `0x8000` on is full-bright.
-/

namespace DoomPatch
namespace Baseline

/-- A frame and its label. -/
structure LabelledFrame where
  /-- The label. -/
  label : String
  /-- The record. -/
  frame : Frame
deriving Inhabited

/-- One line of the table. -/
def row (label : String) (sprite picture tics : Int) (action : String) (next : Int) : LabelledFrame :=
  ⟨label, { sprite, picture, tics, action, next }⟩

/-- Frames 0 to 89: weapons, hands and their flashes. -/
def weaponFrames : List LabelledFrame := [
  row "NULL" 0 0 (-1) "" 0,
  row "LIGHTDONE" 1 4 0 "A_Light0" 0,
  row "PUNCH" 2 0 1 "A_WeaponReady" 2,
  row "PUNCHDOWN" 2 0 1 "A_Lower" 3,
  row "PUNCHUP" 2 0 1 "A_Raise" 4,
  row "PUNCH1" 2 1 4 "" 6,
  row "PUNCH2" 2 2 4 "A_Punch" 7,
  row "PUNCH3" 2 3 5 "" 8,
  row "PUNCH4" 2 2 4 "" 9,
  row "PUNCH5" 2 1 5 "A_ReFire" 2,
  row "PISTOL" 3 0 1 "A_WeaponReady" 10,
  row "PISTOLDOWN" 3 0 1 "A_Lower" 11,
  row "PISTOLUP" 3 0 1 "A_Raise" 12,
  row "PISTOL1" 3 0 4 "" 14,
  row "PISTOL2" 3 1 6 "A_FirePistol" 15,
  row "PISTOL3" 3 2 4 "" 16,
  row "PISTOL4" 3 1 5 "A_ReFire" 10,
  row "PISTOLFLASH" 4 0x8000 7 "A_Light1" 1,
  row "SGUN" 1 0 1 "A_WeaponReady" 18,
  row "SGUNDOWN" 1 0 1 "A_Lower" 19,
  row "SGUNUP" 1 0 1 "A_Raise" 20,
  row "SGUN1" 1 0 3 "" 22,
  row "SGUN2" 1 0 7 "A_FireShotgun" 23,
  row "SGUN3" 1 1 5 "" 24,
  row "SGUN4" 1 2 5 "" 25,
  row "SGUN5" 1 3 4 "" 26,
  row "SGUN6" 1 2 5 "" 27,
  row "SGUN7" 1 1 5 "" 28,
  row "SGUN8" 1 0 3 "" 29,
  row "SGUN9" 1 0 7 "A_ReFire" 18,
  row "SGUNFLASH1" 5 0x8000 4 "A_Light1" 31,
  row "SGUNFLASH2" 5 0x8001 3 "A_Light2" 1,
  row "DSGUN" 6 0 1 "A_WeaponReady" 32,
  row "DSGUNDOWN" 6 0 1 "A_Lower" 33,
  row "DSGUNUP" 6 0 1 "A_Raise" 34,
  row "DSGUN1" 6 0 3 "" 36,
  row "DSGUN2" 6 0 7 "A_FireShotgun2" 37,
  row "DSGUN3" 6 1 7 "" 38,
  row "DSGUN4" 6 2 7 "A_CheckReload" 39,
  row "DSGUN5" 6 3 7 "A_OpenShotgun2" 40,
  row "DSGUN6" 6 4 7 "" 41,
  row "DSGUN7" 6 5 7 "A_LoadShotgun2" 42,
  row "DSGUN8" 6 6 6 "" 43,
  row "DSGUN9" 6 7 6 "A_CloseShotgun2" 44,
  row "DSGUN10" 6 0 5 "A_ReFire" 32,
  row "DSNR1" 6 1 7 "" 46,
  row "DSNR2" 6 0 3 "" 33,
  row "DSGUNFLASH1" 6 0x8008 5 "A_Light1" 48,
  row "DSGUNFLASH2" 6 0x8009 4 "A_Light2" 1,
  row "CHAIN" 7 0 1 "A_WeaponReady" 49,
  row "CHAINDOWN" 7 0 1 "A_Lower" 50,
  row "CHAINUP" 7 0 1 "A_Raise" 51,
  row "CHAIN1" 7 0 4 "A_FireCGun" 53,
  row "CHAIN2" 7 1 4 "A_FireCGun" 54,
  row "CHAIN3" 7 1 0 "A_ReFire" 49,
  row "CHAINFLASH1" 8 0x8000 5 "A_Light1" 1,
  row "CHAINFLASH2" 8 0x8001 5 "A_Light2" 1,
  row "MISSILE" 9 0 1 "A_WeaponReady" 57,
  row "MISSILEDOWN" 9 0 1 "A_Lower" 58,
  row "MISSILEUP" 9 0 1 "A_Raise" 59,
  row "MISSILE1" 9 1 8 "A_GunFlash" 61,
  row "MISSILE2" 9 1 12 "A_FireMissile" 62,
  row "MISSILE3" 9 1 0 "A_ReFire" 57,
  row "MISSILEFLASH1" 10 0x8000 3 "A_Light1" 64,
  row "MISSILEFLASH2" 10 0x8001 4 "" 65,
  row "MISSILEFLASH3" 10 0x8002 4 "A_Light2" 66,
  row "MISSILEFLASH4" 10 0x8003 4 "A_Light2" 1,
  row "SAW" 11 2 4 "A_WeaponReady" 68,
  row "SAWB" 11 3 4 "A_WeaponReady" 67,
  row "SAWDOWN" 11 2 1 "A_Lower" 69,
  row "SAWUP" 11 2 1 "A_Raise" 70,
  row "SAW1" 11 0 4 "A_Saw" 72,
  row "SAW2" 11 1 4 "A_Saw" 73,
  row "SAW3" 11 1 0 "A_ReFire" 67,
  row "PLASMA" 12 0 1 "A_WeaponReady" 74,
  row "PLASMADOWN" 12 0 1 "A_Lower" 75,
  row "PLASMAUP" 12 0 1 "A_Raise" 76,
  row "PLASMA1" 12 0 3 "A_FirePlasma" 78,
  row "PLASMA2" 12 1 20 "A_ReFire" 74,
  row "PLASMAFLASH1" 13 0x8000 4 "A_Light1" 1,
  row "PLASMAFLASH2" 13 0x8001 4 "A_Light1" 1,
  row "BFG" 14 0 1 "A_WeaponReady" 81,
  row "BFGDOWN" 14 0 1 "A_Lower" 82,
  row "BFGUP" 14 0 1 "A_Raise" 83,
  row "BFG1" 14 0 20 "A_BFGsound" 85,
  row "BFG2" 14 1 10 "A_GunFlash" 86,
  row "BFG3" 14 1 10 "A_FireBFG" 87,
  row "BFG4" 14 1 20 "A_ReFire" 81,
  row "BFGFLASH1" 15 0x8000 11 "A_Light1" 89,
  row "BFGFLASH2" 15 0x8001 6 "A_Light2" 1]

/-- Frames 90 to 148: blood, smoke, projectiles and fogs. -/
def effectFrames : List LabelledFrame := [
  row "BLOOD1" 16 2 8 "" 91,
  row "BLOOD2" 16 1 8 "" 92,
  row "BLOOD3" 16 0 8 "" 0,
  row "PUFF1" 17 0x8000 4 "" 94,
  row "PUFF2" 17 1 4 "" 95,
  row "PUFF3" 17 2 4 "" 96,
  row "PUFF4" 17 3 4 "" 0,
  row "TBALL1" 18 0x8000 4 "" 98,
  row "TBALL2" 18 0x8001 4 "" 97,
  row "TBALLX1" 18 0x8002 6 "" 100,
  row "TBALLX2" 18 0x8003 6 "" 101,
  row "TBALLX3" 18 0x8004 6 "" 0,
  row "RBALL1" 19 0x8000 4 "" 103,
  row "RBALL2" 19 0x8001 4 "" 102,
  row "RBALLX1" 19 0x8002 6 "" 105,
  row "RBALLX2" 19 0x8003 6 "" 106,
  row "RBALLX3" 19 0x8004 6 "" 0,
  row "PLASBALL" 20 0x8000 6 "" 108,
  row "PLASBALL2" 20 0x8001 6 "" 107,
  row "PLASEXP" 21 0x8000 4 "" 110,
  row "PLASEXP2" 21 0x8001 4 "" 111,
  row "PLASEXP3" 21 0x8002 4 "" 112,
  row "PLASEXP4" 21 0x8003 4 "" 113,
  row "PLASEXP5" 21 0x8004 4 "" 0,
  row "ROCKET" 22 0x8000 1 "" 114,
  row "BFGSHOT" 23 0x8000 4 "" 116,
  row "BFGSHOT2" 23 0x8001 4 "" 115,
  row "BFGLAND" 24 0x8000 8 "" 118,
  row "BFGLAND2" 24 0x8001 8 "" 119,
  row "BFGLAND3" 24 0x8002 8 "A_BFGSpray" 120,
  row "BFGLAND4" 24 0x8003 8 "" 121,
  row "BFGLAND5" 24 0x8004 8 "" 122,
  row "BFGLAND6" 24 0x8005 8 "" 0,
  row "BFGEXP" 25 0x8000 8 "" 124,
  row "BFGEXP2" 25 0x8001 8 "" 125,
  row "BFGEXP3" 25 0x8002 8 "" 126,
  row "BFGEXP4" 25 0x8003 8 "" 0,
  row "EXPLODE1" 22 0x8001 8 "A_Explode" 128,
  row "EXPLODE2" 22 0x8002 6 "" 129,
  row "EXPLODE3" 22 0x8003 4 "" 0,
  row "TFOG" 26 0x8000 6 "" 131,
  row "TFOG01" 26 0x8001 6 "" 132,
  row "TFOG02" 26 0x8000 6 "" 133,
  row "TFOG2" 26 0x8001 6 "" 134,
  row "TFOG3" 26 0x8002 6 "" 135,
  row "TFOG4" 26 0x8003 6 "" 136,
  row "TFOG5" 26 0x8004 6 "" 137,
  row "TFOG6" 26 0x8005 6 "" 138,
  row "TFOG7" 26 0x8006 6 "" 139,
  row "TFOG8" 26 0x8007 6 "" 140,
  row "TFOG9" 26 0x8008 6 "" 141,
  row "TFOG10" 26 0x8009 6 "" 0,
  row "IFOG" 27 0x8000 6 "" 143,
  row "IFOG01" 27 0x8001 6 "" 144,
  row "IFOG02" 27 0x8000 6 "" 145,
  row "IFOG2" 27 0x8001 6 "" 146,
  row "IFOG3" 27 0x8002 6 "" 147,
  row "IFOG4" 27 0x8003 6 "" 148,
  row "IFOG5" 27 0x8004 6 "" 0]

/-- Frames 149 to 240: the player, the pistol and the shotgun soldier. -/
def soldierFrames : List LabelledFrame := [
  row "PLAY" 28 0 (-1) "" 0,
  row "PLAY_RUN1" 28 0 4 "" 151,
  row "PLAY_RUN2" 28 1 4 "" 152,
  row "PLAY_RUN3" 28 2 4 "" 153,
  row "PLAY_RUN4" 28 3 4 "" 150,
  row "PLAY_ATK1" 28 4 12 "" 149,
  row "PLAY_ATK2" 28 0x8005 6 "" 154,
  row "PLAY_PAIN" 28 6 4 "" 157,
  row "PLAY_PAIN2" 28 6 4 "A_Pain" 149,
  row "PLAY_DIE1" 28 7 10 "" 159,
  row "PLAY_DIE2" 28 8 10 "A_PlayerScream" 160,
  row "PLAY_DIE3" 28 9 10 "A_Fall" 161,
  row "PLAY_DIE4" 28 10 10 "" 162,
  row "PLAY_DIE5" 28 11 10 "" 163,
  row "PLAY_DIE6" 28 12 10 "" 164,
  row "PLAY_DIE7" 28 13 (-1) "" 0,
  row "PLAY_XDIE1" 28 14 5 "" 166,
  row "PLAY_XDIE2" 28 15 5 "A_XScream" 167,
  row "PLAY_XDIE3" 28 16 5 "A_Fall" 168,
  row "PLAY_XDIE4" 28 17 5 "" 169,
  row "PLAY_XDIE5" 28 18 5 "" 170,
  row "PLAY_XDIE6" 28 19 5 "" 171,
  row "PLAY_XDIE7" 28 20 5 "" 172,
  row "PLAY_XDIE8" 28 21 5 "" 173,
  row "PLAY_XDIE9" 28 22 (-1) "" 0,
  row "POSS_STND" 29 0 10 "A_Look" 175,
  row "POSS_STND2" 29 1 10 "A_Look" 174,
  row "POSS_RUN1" 29 0 4 "A_Chase" 177,
  row "POSS_RUN2" 29 0 4 "A_Chase" 178,
  row "POSS_RUN3" 29 1 4 "A_Chase" 179,
  row "POSS_RUN4" 29 1 4 "A_Chase" 180,
  row "POSS_RUN5" 29 2 4 "A_Chase" 181,
  row "POSS_RUN6" 29 2 4 "A_Chase" 182,
  row "POSS_RUN7" 29 3 4 "A_Chase" 183,
  row "POSS_RUN8" 29 3 4 "A_Chase" 176,
  row "POSS_ATK1" 29 4 10 "A_FaceTarget" 185,
  row "POSS_ATK2" 29 5 8 "A_PosAttack" 186,
  row "POSS_ATK3" 29 4 8 "" 176,
  row "POSS_PAIN" 29 6 3 "" 188,
  row "POSS_PAIN2" 29 6 3 "A_Pain" 176,
  row "POSS_DIE1" 29 7 5 "" 190,
  row "POSS_DIE2" 29 8 5 "A_Scream" 191,
  row "POSS_DIE3" 29 9 5 "A_Fall" 192,
  row "POSS_DIE4" 29 10 5 "" 193,
  row "POSS_DIE5" 29 11 (-1) "" 0,
  row "POSS_XDIE1" 29 12 5 "" 195,
  row "POSS_XDIE2" 29 13 5 "A_XScream" 196,
  row "POSS_XDIE3" 29 14 5 "A_Fall" 197,
  row "POSS_XDIE4" 29 15 5 "" 198,
  row "POSS_XDIE5" 29 16 5 "" 199,
  row "POSS_XDIE6" 29 17 5 "" 200,
  row "POSS_XDIE7" 29 18 5 "" 201,
  row "POSS_XDIE8" 29 19 5 "" 202,
  row "POSS_XDIE9" 29 20 (-1) "" 0,
  row "POSS_RAISE1" 29 10 5 "" 204,
  row "POSS_RAISE2" 29 9 5 "" 205,
  row "POSS_RAISE3" 29 8 5 "" 206,
  row "POSS_RAISE4" 29 7 5 "" 176,
  row "SPOS_STND" 30 0 10 "A_Look" 208,
  row "SPOS_STND2" 30 1 10 "A_Look" 207,
  row "SPOS_RUN1" 30 0 3 "A_Chase" 210,
  row "SPOS_RUN2" 30 0 3 "A_Chase" 211,
  row "SPOS_RUN3" 30 1 3 "A_Chase" 212,
  row "SPOS_RUN4" 30 1 3 "A_Chase" 213,
  row "SPOS_RUN5" 30 2 3 "A_Chase" 214,
  row "SPOS_RUN6" 30 2 3 "A_Chase" 215,
  row "SPOS_RUN7" 30 3 3 "A_Chase" 216,
  row "SPOS_RUN8" 30 3 3 "A_Chase" 209,
  row "SPOS_ATK1" 30 4 10 "A_FaceTarget" 218,
  row "SPOS_ATK2" 30 0x8005 10 "A_SPosAttack" 219,
  row "SPOS_ATK3" 30 4 10 "" 209,
  row "SPOS_PAIN" 30 6 3 "" 221,
  row "SPOS_PAIN2" 30 6 3 "A_Pain" 209,
  row "SPOS_DIE1" 30 7 5 "" 223,
  row "SPOS_DIE2" 30 8 5 "A_Scream" 224,
  row "SPOS_DIE3" 30 9 5 "A_Fall" 225,
  row "SPOS_DIE4" 30 10 5 "" 226,
  row "SPOS_DIE5" 30 11 (-1) "" 0,
  row "SPOS_XDIE1" 30 12 5 "" 228,
  row "SPOS_XDIE2" 30 13 5 "A_XScream" 229,
  row "SPOS_XDIE3" 30 14 5 "A_Fall" 230,
  row "SPOS_XDIE4" 30 15 5 "" 231,
  row "SPOS_XDIE5" 30 16 5 "" 232,
  row "SPOS_XDIE6" 30 17 5 "" 233,
  row "SPOS_XDIE7" 30 18 5 "" 234,
  row "SPOS_XDIE8" 30 19 5 "" 235,
  row "SPOS_XDIE9" 30 20 (-1) "" 0,
  row "SPOS_RAISE1" 30 11 5 "" 237,
  row "SPOS_RAISE2" 30 10 5 "" 238,
  row "SPOS_RAISE3" 30 9 5 "" 239,
  row "SPOS_RAISE4" 30 8 5 "" 240,
  row "SPOS_RAISE5" 30 7 5 "" 209]

/-- Frames 241 to 356: the arch-vile with its fire, the revenant with its missile. -/
def fiendFrames : List LabelledFrame := [
  row "VILE_STND" 31 0 10 "A_Look" 242,
  row "VILE_STND2" 31 1 10 "A_Look" 241,
  row "VILE_RUN1" 31 0 2 "A_VileChase" 244,
  row "VILE_RUN2" 31 0 2 "A_VileChase" 245,
  row "VILE_RUN3" 31 1 2 "A_VileChase" 246,
  row "VILE_RUN4" 31 1 2 "A_VileChase" 247,
  row "VILE_RUN5" 31 2 2 "A_VileChase" 248,
  row "VILE_RUN6" 31 2 2 "A_VileChase" 249,
  row "VILE_RUN7" 31 3 2 "A_VileChase" 250,
  row "VILE_RUN8" 31 3 2 "A_VileChase" 251,
  row "VILE_RUN9" 31 4 2 "A_VileChase" 252,
  row "VILE_RUN10" 31 4 2 "A_VileChase" 253,
  row "VILE_RUN11" 31 5 2 "A_VileChase" 254,
  row "VILE_RUN12" 31 5 2 "A_VileChase" 243,
  row "VILE_ATK1" 31 0x8006 0 "A_VileStart" 256,
  row "VILE_ATK2" 31 0x8006 10 "A_FaceTarget" 257,
  row "VILE_ATK3" 31 0x8007 8 "A_VileTarget" 258,
  row "VILE_ATK4" 31 0x8008 8 "A_FaceTarget" 259,
  row "VILE_ATK5" 31 0x8009 8 "A_FaceTarget" 260,
  row "VILE_ATK6" 31 0x800A 8 "A_FaceTarget" 261,
  row "VILE_ATK7" 31 0x800B 8 "A_FaceTarget" 262,
  row "VILE_ATK8" 31 0x800C 8 "A_FaceTarget" 263,
  row "VILE_ATK9" 31 0x800D 8 "A_FaceTarget" 264,
  row "VILE_ATK10" 31 0x800E 8 "A_VileAttack" 265,
  row "VILE_ATK11" 31 0x800F 20 "" 243,
  row "VILE_HEAL1" 31 0x801A 10 "" 267,
  row "VILE_HEAL2" 31 0x801B 10 "" 268,
  row "VILE_HEAL3" 31 0x801C 10 "" 243,
  row "VILE_PAIN" 31 16 5 "" 270,
  row "VILE_PAIN2" 31 16 5 "A_Pain" 243,
  row "VILE_DIE1" 31 16 7 "" 272,
  row "VILE_DIE2" 31 17 7 "A_Scream" 273,
  row "VILE_DIE3" 31 18 7 "A_Fall" 274,
  row "VILE_DIE4" 31 19 7 "" 275,
  row "VILE_DIE5" 31 20 7 "" 276,
  row "VILE_DIE6" 31 21 7 "" 277,
  row "VILE_DIE7" 31 22 7 "" 278,
  row "VILE_DIE8" 31 23 5 "" 279,
  row "VILE_DIE9" 31 24 5 "" 280,
  row "VILE_DIE10" 31 25 (-1) "" 0,
  row "FIRE1" 32 0x8000 2 "A_StartFire" 282,
  row "FIRE2" 32 0x8001 2 "A_Fire" 283,
  row "FIRE3" 32 0x8000 2 "A_Fire" 284,
  row "FIRE4" 32 0x8001 2 "A_Fire" 285,
  row "FIRE5" 32 0x8002 2 "A_FireCrackle" 286,
  row "FIRE6" 32 0x8001 2 "A_Fire" 287,
  row "FIRE7" 32 0x8002 2 "A_Fire" 288,
  row "FIRE8" 32 0x8001 2 "A_Fire" 289,
  row "FIRE9" 32 0x8002 2 "A_Fire" 290,
  row "FIRE10" 32 0x8003 2 "A_Fire" 291,
  row "FIRE11" 32 0x8002 2 "A_Fire" 292,
  row "FIRE12" 32 0x8003 2 "A_Fire" 293,
  row "FIRE13" 32 0x8002 2 "A_Fire" 294,
  row "FIRE14" 32 0x8003 2 "A_Fire" 295,
  row "FIRE15" 32 0x8004 2 "A_Fire" 296,
  row "FIRE16" 32 0x8003 2 "A_Fire" 297,
  row "FIRE17" 32 0x8004 2 "A_Fire" 298,
  row "FIRE18" 32 0x8003 2 "A_Fire" 299,
  row "FIRE19" 32 0x8004 2 "A_FireCrackle" 300,
  row "FIRE20" 32 0x8005 2 "A_Fire" 301,
  row "FIRE21" 32 0x8004 2 "A_Fire" 302,
  row "FIRE22" 32 0x8005 2 "A_Fire" 303,
  row "FIRE23" 32 0x8004 2 "A_Fire" 304,
  row "FIRE24" 32 0x8005 2 "A_Fire" 305,
  row "FIRE25" 32 0x8006 2 "A_Fire" 306,
  row "FIRE26" 32 0x8007 2 "A_Fire" 307,
  row "FIRE27" 32 0x8006 2 "A_Fire" 308,
  row "FIRE28" 32 0x8007 2 "A_Fire" 309,
  row "FIRE29" 32 0x8006 2 "A_Fire" 310,
  row "FIRE30" 32 0x8007 2 "A_Fire" 0,
  row "SMOKE1" 17 1 4 "" 312,
  row "SMOKE2" 17 2 4 "" 313,
  row "SMOKE3" 17 1 4 "" 314,
  row "SMOKE4" 17 2 4 "" 315,
  row "SMOKE5" 17 3 4 "" 0,
  row "TRACER" 33 0x8000 2 "A_Tracer" 317,
  row "TRACER2" 33 0x8001 2 "A_Tracer" 316,
  row "TRACEEXP1" 34 0x8000 8 "" 319,
  row "TRACEEXP2" 34 0x8001 6 "" 320,
  row "TRACEEXP3" 34 0x8002 4 "" 0,
  row "SKEL_STND" 35 0 10 "A_Look" 322,
  row "SKEL_STND2" 35 1 10 "A_Look" 321,
  row "SKEL_RUN1" 35 0 2 "A_Chase" 324,
  row "SKEL_RUN2" 35 0 2 "A_Chase" 325,
  row "SKEL_RUN3" 35 1 2 "A_Chase" 326,
  row "SKEL_RUN4" 35 1 2 "A_Chase" 327,
  row "SKEL_RUN5" 35 2 2 "A_Chase" 328,
  row "SKEL_RUN6" 35 2 2 "A_Chase" 329,
  row "SKEL_RUN7" 35 3 2 "A_Chase" 330,
  row "SKEL_RUN8" 35 3 2 "A_Chase" 331,
  row "SKEL_RUN9" 35 4 2 "A_Chase" 332,
  row "SKEL_RUN10" 35 4 2 "A_Chase" 333,
  row "SKEL_RUN11" 35 5 2 "A_Chase" 334,
  row "SKEL_RUN12" 35 5 2 "A_Chase" 323,
  row "SKEL_FIST1" 35 6 0 "A_FaceTarget" 336,
  row "SKEL_FIST2" 35 6 6 "A_SkelWhoosh" 337,
  row "SKEL_FIST3" 35 7 6 "A_FaceTarget" 338,
  row "SKEL_FIST4" 35 8 6 "A_SkelFist" 323,
  row "SKEL_MISS1" 35 0x8009 0 "A_FaceTarget" 340,
  row "SKEL_MISS2" 35 0x8009 10 "A_FaceTarget" 341,
  row "SKEL_MISS3" 35 10 10 "A_SkelMissile" 342,
  row "SKEL_MISS4" 35 10 10 "A_FaceTarget" 323,
  row "SKEL_PAIN" 35 11 5 "" 344,
  row "SKEL_PAIN2" 35 11 5 "A_Pain" 323,
  row "SKEL_DIE1" 35 11 7 "" 346,
  row "SKEL_DIE2" 35 12 7 "" 347,
  row "SKEL_DIE3" 35 13 7 "A_Scream" 348,
  row "SKEL_DIE4" 35 14 7 "A_Fall" 349,
  row "SKEL_DIE5" 35 15 7 "" 350,
  row "SKEL_DIE6" 35 16 (-1) "" 0,
  row "SKEL_RAISE1" 35 16 5 "" 352,
  row "SKEL_RAISE2" 35 15 5 "" 353,
  row "SKEL_RAISE3" 35 14 5 "" 354,
  row "SKEL_RAISE4" 35 13 5 "" 355,
  row "SKEL_RAISE5" 35 12 5 "" 356,
  row "SKEL_RAISE6" 35 11 5 "" 323]

/-- Frames 357 to 474: the mancubus, the chaingun soldier, the imp. -/
def gunnerFrames : List LabelledFrame := [
  row "FATSHOT1" 36 0x8000 4 "" 358,
  row "FATSHOT2" 36 0x8001 4 "" 357,
  row "FATSHOTX1" 22 0x8001 8 "" 360,
  row "FATSHOTX2" 22 0x8002 6 "" 361,
  row "FATSHOTX3" 22 0x8003 4 "" 0,
  row "FATT_STND" 37 0 15 "A_Look" 363,
  row "FATT_STND2" 37 1 15 "A_Look" 362,
  row "FATT_RUN1" 37 0 4 "A_Chase" 365,
  row "FATT_RUN2" 37 0 4 "A_Chase" 366,
  row "FATT_RUN3" 37 1 4 "A_Chase" 367,
  row "FATT_RUN4" 37 1 4 "A_Chase" 368,
  row "FATT_RUN5" 37 2 4 "A_Chase" 369,
  row "FATT_RUN6" 37 2 4 "A_Chase" 370,
  row "FATT_RUN7" 37 3 4 "A_Chase" 371,
  row "FATT_RUN8" 37 3 4 "A_Chase" 372,
  row "FATT_RUN9" 37 4 4 "A_Chase" 373,
  row "FATT_RUN10" 37 4 4 "A_Chase" 374,
  row "FATT_RUN11" 37 5 4 "A_Chase" 375,
  row "FATT_RUN12" 37 5 4 "A_Chase" 364,
  row "FATT_ATK1" 37 6 20 "A_FatRaise" 377,
  row "FATT_ATK2" 37 0x8007 10 "A_FatAttack1" 378,
  row "FATT_ATK3" 37 8 5 "A_FaceTarget" 379,
  row "FATT_ATK4" 37 6 5 "A_FaceTarget" 380,
  row "FATT_ATK5" 37 0x8007 10 "A_FatAttack2" 381,
  row "FATT_ATK6" 37 8 5 "A_FaceTarget" 382,
  row "FATT_ATK7" 37 6 5 "A_FaceTarget" 383,
  row "FATT_ATK8" 37 0x8007 10 "A_FatAttack3" 384,
  row "FATT_ATK9" 37 8 5 "A_FaceTarget" 385,
  row "FATT_ATK10" 37 6 5 "A_FaceTarget" 364,
  row "FATT_PAIN" 37 9 3 "" 387,
  row "FATT_PAIN2" 37 9 3 "A_Pain" 364,
  row "FATT_DIE1" 37 10 6 "" 389,
  row "FATT_DIE2" 37 11 6 "A_Scream" 390,
  row "FATT_DIE3" 37 12 6 "A_Fall" 391,
  row "FATT_DIE4" 37 13 6 "" 392,
  row "FATT_DIE5" 37 14 6 "" 393,
  row "FATT_DIE6" 37 15 6 "" 394,
  row "FATT_DIE7" 37 16 6 "" 395,
  row "FATT_DIE8" 37 17 6 "" 396,
  row "FATT_DIE9" 37 18 6 "" 397,
  row "FATT_DIE10" 37 19 (-1) "A_BossDeath" 0,
  row "FATT_RAISE1" 37 17 5 "" 399,
  row "FATT_RAISE2" 37 16 5 "" 400,
  row "FATT_RAISE3" 37 15 5 "" 401,
  row "FATT_RAISE4" 37 14 5 "" 402,
  row "FATT_RAISE5" 37 13 5 "" 403,
  row "FATT_RAISE6" 37 12 5 "" 404,
  row "FATT_RAISE7" 37 11 5 "" 405,
  row "FATT_RAISE8" 37 10 5 "" 364,
  row "CPOS_STND" 38 0 10 "A_Look" 407,
  row "CPOS_STND2" 38 1 10 "A_Look" 406,
  row "CPOS_RUN1" 38 0 3 "A_Chase" 409,
  row "CPOS_RUN2" 38 0 3 "A_Chase" 410,
  row "CPOS_RUN3" 38 1 3 "A_Chase" 411,
  row "CPOS_RUN4" 38 1 3 "A_Chase" 412,
  row "CPOS_RUN5" 38 2 3 "A_Chase" 413,
  row "CPOS_RUN6" 38 2 3 "A_Chase" 414,
  row "CPOS_RUN7" 38 3 3 "A_Chase" 415,
  row "CPOS_RUN8" 38 3 3 "A_Chase" 408,
  row "CPOS_ATK1" 38 4 10 "A_FaceTarget" 417,
  row "CPOS_ATK2" 38 0x8005 4 "A_CPosAttack" 418,
  row "CPOS_ATK3" 38 0x8004 4 "A_CPosAttack" 419,
  row "CPOS_ATK4" 38 5 1 "A_CPosRefire" 417,
  row "CPOS_PAIN" 38 6 3 "" 421,
  row "CPOS_PAIN2" 38 6 3 "A_Pain" 408,
  row "CPOS_DIE1" 38 7 5 "" 423,
  row "CPOS_DIE2" 38 8 5 "A_Scream" 424,
  row "CPOS_DIE3" 38 9 5 "A_Fall" 425,
  row "CPOS_DIE4" 38 10 5 "" 426,
  row "CPOS_DIE5" 38 11 5 "" 427,
  row "CPOS_DIE6" 38 12 5 "" 428,
  row "CPOS_DIE7" 38 13 (-1) "" 0,
  row "CPOS_XDIE1" 38 14 5 "" 430,
  row "CPOS_XDIE2" 38 15 5 "A_XScream" 431,
  row "CPOS_XDIE3" 38 16 5 "A_Fall" 432,
  row "CPOS_XDIE4" 38 17 5 "" 433,
  row "CPOS_XDIE5" 38 18 5 "" 434,
  row "CPOS_XDIE6" 38 19 (-1) "" 0,
  row "CPOS_RAISE1" 38 13 5 "" 436,
  row "CPOS_RAISE2" 38 12 5 "" 437,
  row "CPOS_RAISE3" 38 11 5 "" 438,
  row "CPOS_RAISE4" 38 10 5 "" 439,
  row "CPOS_RAISE5" 38 9 5 "" 440,
  row "CPOS_RAISE6" 38 8 5 "" 441,
  row "CPOS_RAISE7" 38 7 5 "" 408,
  row "TROO_STND" 0 0 10 "A_Look" 443,
  row "TROO_STND2" 0 1 10 "A_Look" 442,
  row "TROO_RUN1" 0 0 3 "A_Chase" 445,
  row "TROO_RUN2" 0 0 3 "A_Chase" 446,
  row "TROO_RUN3" 0 1 3 "A_Chase" 447,
  row "TROO_RUN4" 0 1 3 "A_Chase" 448,
  row "TROO_RUN5" 0 2 3 "A_Chase" 449,
  row "TROO_RUN6" 0 2 3 "A_Chase" 450,
  row "TROO_RUN7" 0 3 3 "A_Chase" 451,
  row "TROO_RUN8" 0 3 3 "A_Chase" 444,
  row "TROO_ATK1" 0 4 8 "A_FaceTarget" 453,
  row "TROO_ATK2" 0 5 8 "A_FaceTarget" 454,
  row "TROO_ATK3" 0 6 6 "A_TroopAttack" 444,
  row "TROO_PAIN" 0 7 2 "" 456,
  row "TROO_PAIN2" 0 7 2 "A_Pain" 444,
  row "TROO_DIE1" 0 8 8 "" 458,
  row "TROO_DIE2" 0 9 8 "A_Scream" 459,
  row "TROO_DIE3" 0 10 6 "" 460,
  row "TROO_DIE4" 0 11 6 "A_Fall" 461,
  row "TROO_DIE5" 0 12 (-1) "" 0,
  row "TROO_XDIE1" 0 13 5 "" 463,
  row "TROO_XDIE2" 0 14 5 "A_XScream" 464,
  row "TROO_XDIE3" 0 15 5 "" 465,
  row "TROO_XDIE4" 0 16 5 "A_Fall" 466,
  row "TROO_XDIE5" 0 17 5 "" 467,
  row "TROO_XDIE6" 0 18 5 "" 468,
  row "TROO_XDIE7" 0 19 5 "" 469,
  row "TROO_XDIE8" 0 20 (-1) "" 0,
  row "TROO_RAISE1" 0 12 8 "" 471,
  row "TROO_RAISE2" 0 11 8 "" 472,
  row "TROO_RAISE3" 0 10 6 "" 473,
  row "TROO_RAISE4" 0 9 6 "" 474,
  row "TROO_RAISE5" 0 8 6 "" 444]

/-- Frames 475 to 600: the demon, the cacodemon, the barons, the lost soul. -/
def beastFrames : List LabelledFrame := [
  row "SARG_STND" 39 0 10 "A_Look" 476,
  row "SARG_STND2" 39 1 10 "A_Look" 475,
  row "SARG_RUN1" 39 0 2 "A_Chase" 478,
  row "SARG_RUN2" 39 0 2 "A_Chase" 479,
  row "SARG_RUN3" 39 1 2 "A_Chase" 480,
  row "SARG_RUN4" 39 1 2 "A_Chase" 481,
  row "SARG_RUN5" 39 2 2 "A_Chase" 482,
  row "SARG_RUN6" 39 2 2 "A_Chase" 483,
  row "SARG_RUN7" 39 3 2 "A_Chase" 484,
  row "SARG_RUN8" 39 3 2 "A_Chase" 477,
  row "SARG_ATK1" 39 4 8 "A_FaceTarget" 486,
  row "SARG_ATK2" 39 5 8 "A_FaceTarget" 487,
  row "SARG_ATK3" 39 6 8 "A_SargAttack" 477,
  row "SARG_PAIN" 39 7 2 "" 489,
  row "SARG_PAIN2" 39 7 2 "A_Pain" 477,
  row "SARG_DIE1" 39 8 8 "" 491,
  row "SARG_DIE2" 39 9 8 "A_Scream" 492,
  row "SARG_DIE3" 39 10 4 "" 493,
  row "SARG_DIE4" 39 11 4 "A_Fall" 494,
  row "SARG_DIE5" 39 12 4 "" 495,
  row "SARG_DIE6" 39 13 (-1) "" 0,
  row "SARG_RAISE1" 39 13 5 "" 497,
  row "SARG_RAISE2" 39 12 5 "" 498,
  row "SARG_RAISE3" 39 11 5 "" 499,
  row "SARG_RAISE4" 39 10 5 "" 500,
  row "SARG_RAISE5" 39 9 5 "" 501,
  row "SARG_RAISE6" 39 8 5 "" 477,
  row "HEAD_STND" 40 0 10 "A_Look" 502,
  row "HEAD_RUN1" 40 0 3 "A_Chase" 503,
  row "HEAD_ATK1" 40 1 5 "A_FaceTarget" 505,
  row "HEAD_ATK2" 40 2 5 "A_FaceTarget" 506,
  row "HEAD_ATK3" 40 0x8003 5 "A_HeadAttack" 503,
  row "HEAD_PAIN" 40 4 3 "" 508,
  row "HEAD_PAIN2" 40 4 3 "A_Pain" 509,
  row "HEAD_PAIN3" 40 5 6 "" 503,
  row "HEAD_DIE1" 40 6 8 "" 511,
  row "HEAD_DIE2" 40 7 8 "A_Scream" 512,
  row "HEAD_DIE3" 40 8 8 "" 513,
  row "HEAD_DIE4" 40 9 8 "" 514,
  row "HEAD_DIE5" 40 10 8 "A_Fall" 515,
  row "HEAD_DIE6" 40 11 (-1) "" 0,
  row "HEAD_RAISE1" 40 11 8 "" 517,
  row "HEAD_RAISE2" 40 10 8 "" 518,
  row "HEAD_RAISE3" 40 9 8 "" 519,
  row "HEAD_RAISE4" 40 8 8 "" 520,
  row "HEAD_RAISE5" 40 7 8 "" 521,
  row "HEAD_RAISE6" 40 6 8 "" 503,
  row "BRBALL1" 41 0x8000 4 "" 523,
  row "BRBALL2" 41 0x8001 4 "" 522,
  row "BRBALLX1" 41 0x8002 6 "" 525,
  row "BRBALLX2" 41 0x8003 6 "" 526,
  row "BRBALLX3" 41 0x8004 6 "" 0,
  row "BOSS_STND" 42 0 10 "A_Look" 528,
  row "BOSS_STND2" 42 1 10 "A_Look" 527,
  row "BOSS_RUN1" 42 0 3 "A_Chase" 530,
  row "BOSS_RUN2" 42 0 3 "A_Chase" 531,
  row "BOSS_RUN3" 42 1 3 "A_Chase" 532,
  row "BOSS_RUN4" 42 1 3 "A_Chase" 533,
  row "BOSS_RUN5" 42 2 3 "A_Chase" 534,
  row "BOSS_RUN6" 42 2 3 "A_Chase" 535,
  row "BOSS_RUN7" 42 3 3 "A_Chase" 536,
  row "BOSS_RUN8" 42 3 3 "A_Chase" 529,
  row "BOSS_ATK1" 42 4 8 "A_FaceTarget" 538,
  row "BOSS_ATK2" 42 5 8 "A_FaceTarget" 539,
  row "BOSS_ATK3" 42 6 8 "A_BruisAttack" 529,
  row "BOSS_PAIN" 42 7 2 "" 541,
  row "BOSS_PAIN2" 42 7 2 "A_Pain" 529,
  row "BOSS_DIE1" 42 8 8 "" 543,
  row "BOSS_DIE2" 42 9 8 "A_Scream" 544,
  row "BOSS_DIE3" 42 10 8 "" 545,
  row "BOSS_DIE4" 42 11 8 "A_Fall" 546,
  row "BOSS_DIE5" 42 12 8 "" 547,
  row "BOSS_DIE6" 42 13 8 "" 548,
  row "BOSS_DIE7" 42 14 (-1) "A_BossDeath" 0,
  row "BOSS_RAISE1" 42 14 8 "" 550,
  row "BOSS_RAISE2" 42 13 8 "" 551,
  row "BOSS_RAISE3" 42 12 8 "" 552,
  row "BOSS_RAISE4" 42 11 8 "" 553,
  row "BOSS_RAISE5" 42 10 8 "" 554,
  row "BOSS_RAISE6" 42 9 8 "" 555,
  row "BOSS_RAISE7" 42 8 8 "" 529,
  row "BOS2_STND" 43 0 10 "A_Look" 557,
  row "BOS2_STND2" 43 1 10 "A_Look" 556,
  row "BOS2_RUN1" 43 0 3 "A_Chase" 559,
  row "BOS2_RUN2" 43 0 3 "A_Chase" 560,
  row "BOS2_RUN3" 43 1 3 "A_Chase" 561,
  row "BOS2_RUN4" 43 1 3 "A_Chase" 562,
  row "BOS2_RUN5" 43 2 3 "A_Chase" 563,
  row "BOS2_RUN6" 43 2 3 "A_Chase" 564,
  row "BOS2_RUN7" 43 3 3 "A_Chase" 565,
  row "BOS2_RUN8" 43 3 3 "A_Chase" 558,
  row "BOS2_ATK1" 43 4 8 "A_FaceTarget" 567,
  row "BOS2_ATK2" 43 5 8 "A_FaceTarget" 568,
  row "BOS2_ATK3" 43 6 8 "A_BruisAttack" 558,
  row "BOS2_PAIN" 43 7 2 "" 570,
  row "BOS2_PAIN2" 43 7 2 "A_Pain" 558,
  row "BOS2_DIE1" 43 8 8 "" 572,
  row "BOS2_DIE2" 43 9 8 "A_Scream" 573,
  row "BOS2_DIE3" 43 10 8 "" 574,
  row "BOS2_DIE4" 43 11 8 "A_Fall" 575,
  row "BOS2_DIE5" 43 12 8 "" 576,
  row "BOS2_DIE6" 43 13 8 "" 577,
  row "BOS2_DIE7" 43 14 (-1) "" 0,
  row "BOS2_RAISE1" 43 14 8 "" 579,
  row "BOS2_RAISE2" 43 13 8 "" 580,
  row "BOS2_RAISE3" 43 12 8 "" 581,
  row "BOS2_RAISE4" 43 11 8 "" 582,
  row "BOS2_RAISE5" 43 10 8 "" 583,
  row "BOS2_RAISE6" 43 9 8 "" 584,
  row "BOS2_RAISE7" 43 8 8 "" 558,
  row "SKULL_STND" 44 0x8000 10 "A_Look" 586,
  row "SKULL_STND2" 44 0x8001 10 "A_Look" 585,
  row "SKULL_RUN1" 44 0x8000 6 "A_Chase" 588,
  row "SKULL_RUN2" 44 0x8001 6 "A_Chase" 587,
  row "SKULL_ATK1" 44 0x8002 10 "A_FaceTarget" 590,
  row "SKULL_ATK2" 44 0x8003 4 "A_SkullAttack" 591,
  row "SKULL_ATK3" 44 0x8002 4 "" 592,
  row "SKULL_ATK4" 44 0x8003 4 "" 591,
  row "SKULL_PAIN" 44 0x8004 3 "" 594,
  row "SKULL_PAIN2" 44 0x8004 3 "A_Pain" 587,
  row "SKULL_DIE1" 44 0x8005 6 "" 596,
  row "SKULL_DIE2" 44 0x8006 6 "A_Scream" 597,
  row "SKULL_DIE3" 44 0x8007 6 "" 598,
  row "SKULL_DIE4" 44 0x8008 6 "A_Fall" 599,
  row "SKULL_DIE5" 44 9 6 "" 600,
  row "SKULL_DIE6" 44 10 6 "" 0]

/-- Frames 601 to 725: the spiders, the cyberdemon, the pain elemental. -/
def giantFrames : List LabelledFrame := [
  row "SPID_STND" 45 0 10 "A_Look" 602,
  row "SPID_STND2" 45 1 10 "A_Look" 601,
  row "SPID_RUN1" 45 0 3 "A_Metal" 604,
  row "SPID_RUN2" 45 0 3 "A_Chase" 605,
  row "SPID_RUN3" 45 1 3 "A_Chase" 606,
  row "SPID_RUN4" 45 1 3 "A_Chase" 607,
  row "SPID_RUN5" 45 2 3 "A_Metal" 608,
  row "SPID_RUN6" 45 2 3 "A_Chase" 609,
  row "SPID_RUN7" 45 3 3 "A_Chase" 610,
  row "SPID_RUN8" 45 3 3 "A_Chase" 611,
  row "SPID_RUN9" 45 4 3 "A_Metal" 612,
  row "SPID_RUN10" 45 4 3 "A_Chase" 613,
  row "SPID_RUN11" 45 5 3 "A_Chase" 614,
  row "SPID_RUN12" 45 5 3 "A_Chase" 603,
  row "SPID_ATK1" 45 0x8000 20 "A_FaceTarget" 616,
  row "SPID_ATK2" 45 0x8006 4 "A_SPosAttack" 617,
  row "SPID_ATK3" 45 0x8007 4 "A_SPosAttack" 618,
  row "SPID_ATK4" 45 0x8007 1 "A_SpidRefire" 616,
  row "SPID_PAIN" 45 8 3 "" 620,
  row "SPID_PAIN2" 45 8 3 "A_Pain" 603,
  row "SPID_DIE1" 45 9 20 "A_Scream" 622,
  row "SPID_DIE2" 45 10 10 "A_Fall" 623,
  row "SPID_DIE3" 45 11 10 "" 624,
  row "SPID_DIE4" 45 12 10 "" 625,
  row "SPID_DIE5" 45 13 10 "" 626,
  row "SPID_DIE6" 45 14 10 "" 627,
  row "SPID_DIE7" 45 15 10 "" 628,
  row "SPID_DIE8" 45 16 10 "" 629,
  row "SPID_DIE9" 45 17 10 "" 630,
  row "SPID_DIE10" 45 18 30 "" 631,
  row "SPID_DIE11" 45 18 (-1) "A_BossDeath" 0,
  row "BSPI_STND" 46 0 10 "A_Look" 633,
  row "BSPI_STND2" 46 1 10 "A_Look" 632,
  row "BSPI_SIGHT" 46 0 20 "" 635,
  row "BSPI_RUN1" 46 0 3 "A_BabyMetal" 636,
  row "BSPI_RUN2" 46 0 3 "A_Chase" 637,
  row "BSPI_RUN3" 46 1 3 "A_Chase" 638,
  row "BSPI_RUN4" 46 1 3 "A_Chase" 639,
  row "BSPI_RUN5" 46 2 3 "A_Chase" 640,
  row "BSPI_RUN6" 46 2 3 "A_Chase" 641,
  row "BSPI_RUN7" 46 3 3 "A_BabyMetal" 642,
  row "BSPI_RUN8" 46 3 3 "A_Chase" 643,
  row "BSPI_RUN9" 46 4 3 "A_Chase" 644,
  row "BSPI_RUN10" 46 4 3 "A_Chase" 645,
  row "BSPI_RUN11" 46 5 3 "A_Chase" 646,
  row "BSPI_RUN12" 46 5 3 "A_Chase" 635,
  row "BSPI_ATK1" 46 0x8000 20 "A_FaceTarget" 648,
  row "BSPI_ATK2" 46 0x8006 4 "A_BspiAttack" 649,
  row "BSPI_ATK3" 46 0x8007 4 "" 650,
  row "BSPI_ATK4" 46 0x8007 1 "A_SpidRefire" 648,
  row "BSPI_PAIN" 46 8 3 "" 652,
  row "BSPI_PAIN2" 46 8 3 "A_Pain" 635,
  row "BSPI_DIE1" 46 9 20 "A_Scream" 654,
  row "BSPI_DIE2" 46 10 7 "A_Fall" 655,
  row "BSPI_DIE3" 46 11 7 "" 656,
  row "BSPI_DIE4" 46 12 7 "" 657,
  row "BSPI_DIE5" 46 13 7 "" 658,
  row "BSPI_DIE6" 46 14 7 "" 659,
  row "BSPI_DIE7" 46 15 (-1) "A_BossDeath" 0,
  row "BSPI_RAISE1" 46 15 5 "" 661,
  row "BSPI_RAISE2" 46 14 5 "" 662,
  row "BSPI_RAISE3" 46 13 5 "" 663,
  row "BSPI_RAISE4" 46 12 5 "" 664,
  row "BSPI_RAISE5" 46 11 5 "" 665,
  row "BSPI_RAISE6" 46 10 5 "" 666,
  row "BSPI_RAISE7" 46 9 5 "" 635,
  row "ARACH_PLAZ" 47 0x8000 5 "" 668,
  row "ARACH_PLAZ2" 47 0x8001 5 "" 667,
  row "ARACH_PLEX" 48 0x8000 5 "" 670,
  row "ARACH_PLEX2" 48 0x8001 5 "" 671,
  row "ARACH_PLEX3" 48 0x8002 5 "" 672,
  row "ARACH_PLEX4" 48 0x8003 5 "" 673,
  row "ARACH_PLEX5" 48 0x8004 5 "" 0,
  row "CYBER_STND" 49 0 10 "A_Look" 675,
  row "CYBER_STND2" 49 1 10 "A_Look" 674,
  row "CYBER_RUN1" 49 0 3 "A_Hoof" 677,
  row "CYBER_RUN2" 49 0 3 "A_Chase" 678,
  row "CYBER_RUN3" 49 1 3 "A_Chase" 679,
  row "CYBER_RUN4" 49 1 3 "A_Chase" 680,
  row "CYBER_RUN5" 49 2 3 "A_Chase" 681,
  row "CYBER_RUN6" 49 2 3 "A_Chase" 682,
  row "CYBER_RUN7" 49 3 3 "A_Metal" 683,
  row "CYBER_RUN8" 49 3 3 "A_Chase" 676,
  row "CYBER_ATK1" 49 4 6 "A_FaceTarget" 685,
  row "CYBER_ATK2" 49 5 12 "A_CyberAttack" 686,
  row "CYBER_ATK3" 49 4 12 "A_FaceTarget" 687,
  row "CYBER_ATK4" 49 5 12 "A_CyberAttack" 688,
  row "CYBER_ATK5" 49 4 12 "A_FaceTarget" 689,
  row "CYBER_ATK6" 49 5 12 "A_CyberAttack" 676,
  row "CYBER_PAIN" 49 6 10 "A_Pain" 676,
  row "CYBER_DIE1" 49 7 10 "" 692,
  row "CYBER_DIE2" 49 8 10 "A_Scream" 693,
  row "CYBER_DIE3" 49 9 10 "" 694,
  row "CYBER_DIE4" 49 10 10 "" 695,
  row "CYBER_DIE5" 49 11 10 "" 696,
  row "CYBER_DIE6" 49 12 10 "A_Fall" 697,
  row "CYBER_DIE7" 49 13 10 "" 698,
  row "CYBER_DIE8" 49 14 10 "" 699,
  row "CYBER_DIE9" 49 15 30 "" 700,
  row "CYBER_DIE10" 49 15 (-1) "A_BossDeath" 0,
  row "PAIN_STND" 50 0 10 "A_Look" 701,
  row "PAIN_RUN1" 50 0 3 "A_Chase" 703,
  row "PAIN_RUN2" 50 0 3 "A_Chase" 704,
  row "PAIN_RUN3" 50 1 3 "A_Chase" 705,
  row "PAIN_RUN4" 50 1 3 "A_Chase" 706,
  row "PAIN_RUN5" 50 2 3 "A_Chase" 707,
  row "PAIN_RUN6" 50 2 3 "A_Chase" 702,
  row "PAIN_ATK1" 50 3 5 "A_FaceTarget" 709,
  row "PAIN_ATK2" 50 4 5 "A_FaceTarget" 710,
  row "PAIN_ATK3" 50 0x8005 5 "A_FaceTarget" 711,
  row "PAIN_ATK4" 50 0x8005 0 "A_PainAttack" 702,
  row "PAIN_PAIN" 50 6 6 "" 713,
  row "PAIN_PAIN2" 50 6 6 "A_Pain" 702,
  row "PAIN_DIE1" 50 0x8007 8 "" 715,
  row "PAIN_DIE2" 50 0x8008 8 "A_Scream" 716,
  row "PAIN_DIE3" 50 0x8009 8 "" 717,
  row "PAIN_DIE4" 50 0x800A 8 "" 718,
  row "PAIN_DIE5" 50 0x800B 8 "A_PainDie" 719,
  row "PAIN_DIE6" 50 0x800C 8 "" 0,
  row "PAIN_RAISE1" 50 12 8 "" 721,
  row "PAIN_RAISE2" 50 11 8 "" 722,
  row "PAIN_RAISE3" 50 10 8 "" 723,
  row "PAIN_RAISE4" 50 9 8 "" 724,
  row "PAIN_RAISE5" 50 8 8 "" 725,
  row "PAIN_RAISE6" 50 7 8 "" 702]

/-- Frames 726 to 801: the officer, the commander, the brain and its cube. -/
def secretFrames : List LabelledFrame := [
  row "SSWV_STND" 51 0 10 "A_Look" 727,
  row "SSWV_STND2" 51 1 10 "A_Look" 726,
  row "SSWV_RUN1" 51 0 3 "A_Chase" 729,
  row "SSWV_RUN2" 51 0 3 "A_Chase" 730,
  row "SSWV_RUN3" 51 1 3 "A_Chase" 731,
  row "SSWV_RUN4" 51 1 3 "A_Chase" 732,
  row "SSWV_RUN5" 51 2 3 "A_Chase" 733,
  row "SSWV_RUN6" 51 2 3 "A_Chase" 734,
  row "SSWV_RUN7" 51 3 3 "A_Chase" 735,
  row "SSWV_RUN8" 51 3 3 "A_Chase" 728,
  row "SSWV_ATK1" 51 4 10 "A_FaceTarget" 737,
  row "SSWV_ATK2" 51 5 10 "A_FaceTarget" 738,
  row "SSWV_ATK3" 51 0x8006 4 "A_CPosAttack" 739,
  row "SSWV_ATK4" 51 5 6 "A_FaceTarget" 740,
  row "SSWV_ATK5" 51 0x8006 4 "A_CPosAttack" 741,
  row "SSWV_ATK6" 51 5 1 "A_CPosRefire" 737,
  row "SSWV_PAIN" 51 7 3 "" 743,
  row "SSWV_PAIN2" 51 7 3 "A_Pain" 728,
  row "SSWV_DIE1" 51 8 5 "" 745,
  row "SSWV_DIE2" 51 9 5 "A_Scream" 746,
  row "SSWV_DIE3" 51 10 5 "A_Fall" 747,
  row "SSWV_DIE4" 51 11 5 "" 748,
  row "SSWV_DIE5" 51 12 (-1) "" 0,
  row "SSWV_XDIE1" 51 13 5 "" 750,
  row "SSWV_XDIE2" 51 14 5 "A_XScream" 751,
  row "SSWV_XDIE3" 51 15 5 "A_Fall" 752,
  row "SSWV_XDIE4" 51 16 5 "" 753,
  row "SSWV_XDIE5" 51 17 5 "" 754,
  row "SSWV_XDIE6" 51 18 5 "" 755,
  row "SSWV_XDIE7" 51 19 5 "" 756,
  row "SSWV_XDIE8" 51 20 5 "" 757,
  row "SSWV_XDIE9" 51 21 (-1) "" 0,
  row "SSWV_RAISE1" 51 12 5 "" 759,
  row "SSWV_RAISE2" 51 11 5 "" 760,
  row "SSWV_RAISE3" 51 10 5 "" 761,
  row "SSWV_RAISE4" 51 9 5 "" 762,
  row "SSWV_RAISE5" 51 8 5 "" 728,
  row "KEENSTND" 52 0 (-1) "" 763,
  row "COMMKEEN" 52 0 6 "" 765,
  row "COMMKEEN2" 52 1 6 "" 766,
  row "COMMKEEN3" 52 2 6 "A_Scream" 767,
  row "COMMKEEN4" 52 3 6 "" 768,
  row "COMMKEEN5" 52 4 6 "" 769,
  row "COMMKEEN6" 52 5 6 "" 770,
  row "COMMKEEN7" 52 6 6 "" 771,
  row "COMMKEEN8" 52 7 6 "" 772,
  row "COMMKEEN9" 52 8 6 "" 773,
  row "COMMKEEN10" 52 9 6 "" 774,
  row "COMMKEEN11" 52 10 6 "A_KeenDie" 775,
  row "COMMKEEN12" 52 11 (-1) "" 0,
  row "KEENPAIN" 52 12 4 "" 777,
  row "KEENPAIN2" 52 12 8 "A_Pain" 763,
  row "BRAIN" 53 0 (-1) "" 0,
  row "BRAIN_PAIN" 53 1 36 "A_BrainPain" 778,
  row "BRAIN_DIE1" 53 0 100 "A_BrainScream" 781,
  row "BRAIN_DIE2" 53 0 10 "" 782,
  row "BRAIN_DIE3" 53 0 10 "" 783,
  row "BRAIN_DIE4" 53 0 (-1) "A_BrainDie" 0,
  row "BRAINEYE" 51 0 10 "A_Look" 784,
  row "BRAINEYESEE" 51 0 181 "A_BrainAwake" 786,
  row "BRAINEYE1" 51 0 150 "A_BrainSpit" 786,
  row "SPAWN1" 54 0x8000 3 "A_SpawnSound" 788,
  row "SPAWN2" 54 0x8001 3 "A_SpawnFly" 789,
  row "SPAWN3" 54 0x8002 3 "A_SpawnFly" 790,
  row "SPAWN4" 54 0x8003 3 "A_SpawnFly" 787,
  row "SPAWNFIRE1" 32 0x8000 4 "A_Fire" 792,
  row "SPAWNFIRE2" 32 0x8001 4 "A_Fire" 793,
  row "SPAWNFIRE3" 32 0x8002 4 "A_Fire" 794,
  row "SPAWNFIRE4" 32 0x8003 4 "A_Fire" 795,
  row "SPAWNFIRE5" 32 0x8004 4 "A_Fire" 796,
  row "SPAWNFIRE6" 32 0x8005 4 "A_Fire" 797,
  row "SPAWNFIRE7" 32 0x8006 4 "A_Fire" 798,
  row "SPAWNFIRE8" 32 0x8007 4 "A_Fire" 0,
  row "BRAINEXPLODE1" 22 0x8001 10 "" 800,
  row "BRAINEXPLODE2" 22 0x8002 10 "" 801,
  row "BRAINEXPLODE3" 22 0x8003 10 "A_BrainExplode" 0]

/-- Frames 802 to 885: armour, barrels, keys, powers, ammunition, weapons. -/
def pickupFrames : List LabelledFrame := [
  row "ARM1" 55 0 6 "" 803,
  row "ARM1A" 55 0x8001 7 "" 802,
  row "ARM2" 56 0 6 "" 805,
  row "ARM2A" 56 0x8001 6 "" 804,
  row "BAR1" 57 0 6 "" 807,
  row "BAR2" 57 1 6 "" 806,
  row "BEXP" 58 0x8000 5 "" 809,
  row "BEXP2" 58 0x8001 5 "A_Scream" 810,
  row "BEXP3" 58 0x8002 5 "" 811,
  row "BEXP4" 58 0x8003 10 "A_Explode" 812,
  row "BEXP5" 58 0x8004 10 "" 0,
  row "BBAR1" 59 0x8000 4 "" 814,
  row "BBAR2" 59 0x8001 4 "" 815,
  row "BBAR3" 59 0x8002 4 "" 813,
  row "BON1" 60 0 6 "" 817,
  row "BON1A" 60 1 6 "" 818,
  row "BON1B" 60 2 6 "" 819,
  row "BON1C" 60 3 6 "" 820,
  row "BON1D" 60 2 6 "" 821,
  row "BON1E" 60 1 6 "" 816,
  row "BON2" 61 0 6 "" 823,
  row "BON2A" 61 1 6 "" 824,
  row "BON2B" 61 2 6 "" 825,
  row "BON2C" 61 3 6 "" 826,
  row "BON2D" 61 2 6 "" 827,
  row "BON2E" 61 1 6 "" 822,
  row "BKEY" 62 0 10 "" 829,
  row "BKEY2" 62 0x8001 10 "" 828,
  row "RKEY" 63 0 10 "" 831,
  row "RKEY2" 63 0x8001 10 "" 830,
  row "YKEY" 64 0 10 "" 833,
  row "YKEY2" 64 0x8001 10 "" 832,
  row "BSKULL" 65 0 10 "" 835,
  row "BSKULL2" 65 0x8001 10 "" 834,
  row "RSKULL" 66 0 10 "" 837,
  row "RSKULL2" 66 0x8001 10 "" 836,
  row "YSKULL" 67 0 10 "" 839,
  row "YSKULL2" 67 0x8001 10 "" 838,
  row "STIM" 68 0 (-1) "" 0,
  row "MEDI" 69 0 (-1) "" 0,
  row "SOUL" 70 0x8000 6 "" 843,
  row "SOUL2" 70 0x8001 6 "" 844,
  row "SOUL3" 70 0x8002 6 "" 845,
  row "SOUL4" 70 0x8003 6 "" 846,
  row "SOUL5" 70 0x8002 6 "" 847,
  row "SOUL6" 70 0x8001 6 "" 842,
  row "PINV" 71 0x8000 6 "" 849,
  row "PINV2" 71 0x8001 6 "" 850,
  row "PINV3" 71 0x8002 6 "" 851,
  row "PINV4" 71 0x8003 6 "" 848,
  row "PSTR" 72 0x8000 (-1) "" 0,
  row "PINS" 73 0x8000 6 "" 854,
  row "PINS2" 73 0x8001 6 "" 855,
  row "PINS3" 73 0x8002 6 "" 856,
  row "PINS4" 73 0x8003 6 "" 853,
  row "MEGA" 74 0x8000 6 "" 858,
  row "MEGA2" 74 0x8001 6 "" 859,
  row "MEGA3" 74 0x8002 6 "" 860,
  row "MEGA4" 74 0x8003 6 "" 857,
  row "SUIT" 75 0x8000 (-1) "" 0,
  row "PMAP" 76 0x8000 6 "" 863,
  row "PMAP2" 76 0x8001 6 "" 864,
  row "PMAP3" 76 0x8002 6 "" 865,
  row "PMAP4" 76 0x8003 6 "" 866,
  row "PMAP5" 76 0x8002 6 "" 867,
  row "PMAP6" 76 0x8001 6 "" 862,
  row "PVIS" 77 0x8000 6 "" 869,
  row "PVIS2" 77 1 6 "" 868,
  row "CLIP" 78 0 (-1) "" 0,
  row "AMMO" 79 0 (-1) "" 0,
  row "ROCK" 80 0 (-1) "" 0,
  row "BROK" 81 0 (-1) "" 0,
  row "CELL" 82 0 (-1) "" 0,
  row "CELP" 83 0 (-1) "" 0,
  row "SHEL" 84 0 (-1) "" 0,
  row "SBOX" 85 0 (-1) "" 0,
  row "BPAK" 86 0 (-1) "" 0,
  row "BFUG" 87 0 (-1) "" 0,
  row "MGUN" 88 0 (-1) "" 0,
  row "CSAW" 89 0 (-1) "" 0,
  row "LAUN" 90 0 (-1) "" 0,
  row "PLAS" 91 0 (-1) "" 0,
  row "SHOT" 92 0 (-1) "" 0,
  row "SHOT2" 93 0 (-1) "" 0]

/-- Frames 886 to 966: columns, corpses, trees, torches and lamps. -/
def sceneryFrames : List LabelledFrame := [
  row "COLU" 94 0x8000 (-1) "" 0,
  row "STALAG" 95 0 (-1) "" 0,
  row "BLOODYTWITCH" 96 0 10 "" 889,
  row "BLOODYTWITCH2" 96 1 15 "" 890,
  row "BLOODYTWITCH3" 96 2 8 "" 891,
  row "BLOODYTWITCH4" 96 1 6 "" 888,
  row "DEADTORSO" 28 13 (-1) "" 0,
  row "DEADBOTTOM" 28 18 (-1) "" 0,
  row "HEADSONSTICK" 97 0 (-1) "" 0,
  row "GIBS" 98 0 (-1) "" 0,
  row "HEADONASTICK" 99 0 (-1) "" 0,
  row "HEADCANDLES" 100 0x8000 6 "" 898,
  row "HEADCANDLES2" 100 0x8001 6 "" 897,
  row "DEADSTICK" 101 0 (-1) "" 0,
  row "LIVESTICK" 102 0 6 "" 901,
  row "LIVESTICK2" 102 1 8 "" 900,
  row "MEAT2" 103 0 (-1) "" 0,
  row "MEAT3" 104 0 (-1) "" 0,
  row "MEAT4" 105 0 (-1) "" 0,
  row "MEAT5" 106 0 (-1) "" 0,
  row "STALAGTITE" 107 0 (-1) "" 0,
  row "TALLGRNCOL" 108 0 (-1) "" 0,
  row "SHRTGRNCOL" 109 0 (-1) "" 0,
  row "TALLREDCOL" 110 0 (-1) "" 0,
  row "SHRTREDCOL" 111 0 (-1) "" 0,
  row "CANDLESTIK" 112 0x8000 (-1) "" 0,
  row "CANDELABRA" 113 0x8000 (-1) "" 0,
  row "SKULLCOL" 114 0 (-1) "" 0,
  row "TORCHTREE" 115 0 (-1) "" 0,
  row "BIGTREE" 116 0 (-1) "" 0,
  row "TECHPILLAR" 117 0 (-1) "" 0,
  row "EVILEYE" 118 0x8000 6 "" 918,
  row "EVILEYE2" 118 0x8001 6 "" 919,
  row "EVILEYE3" 118 0x8002 6 "" 920,
  row "EVILEYE4" 118 0x8001 6 "" 917,
  row "FLOATSKULL" 119 0x8000 6 "" 922,
  row "FLOATSKULL2" 119 0x8001 6 "" 923,
  row "FLOATSKULL3" 119 0x8002 6 "" 921,
  row "HEARTCOL" 120 0 14 "" 925,
  row "HEARTCOL2" 120 1 14 "" 924,
  row "BLUETORCH" 121 0x8000 4 "" 927,
  row "BLUETORCH2" 121 0x8001 4 "" 928,
  row "BLUETORCH3" 121 0x8002 4 "" 929,
  row "BLUETORCH4" 121 0x8003 4 "" 926,
  row "GREENTORCH" 122 0x8000 4 "" 931,
  row "GREENTORCH2" 122 0x8001 4 "" 932,
  row "GREENTORCH3" 122 0x8002 4 "" 933,
  row "GREENTORCH4" 122 0x8003 4 "" 930,
  row "REDTORCH" 123 0x8000 4 "" 935,
  row "REDTORCH2" 123 0x8001 4 "" 936,
  row "REDTORCH3" 123 0x8002 4 "" 937,
  row "REDTORCH4" 123 0x8003 4 "" 934,
  row "BTORCHSHRT" 124 0x8000 4 "" 939,
  row "BTORCHSHRT2" 124 0x8001 4 "" 940,
  row "BTORCHSHRT3" 124 0x8002 4 "" 941,
  row "BTORCHSHRT4" 124 0x8003 4 "" 938,
  row "GTORCHSHRT" 125 0x8000 4 "" 943,
  row "GTORCHSHRT2" 125 0x8001 4 "" 944,
  row "GTORCHSHRT3" 125 0x8002 4 "" 945,
  row "GTORCHSHRT4" 125 0x8003 4 "" 942,
  row "RTORCHSHRT" 126 0x8000 4 "" 947,
  row "RTORCHSHRT2" 126 0x8001 4 "" 948,
  row "RTORCHSHRT3" 126 0x8002 4 "" 949,
  row "RTORCHSHRT4" 126 0x8003 4 "" 946,
  row "HANGNOGUTS" 127 0 (-1) "" 0,
  row "HANGBNOBRAIN" 128 0 (-1) "" 0,
  row "HANGTLOOKDN" 129 0 (-1) "" 0,
  row "HANGTSKULL" 130 0 (-1) "" 0,
  row "HANGTLOOKUP" 131 0 (-1) "" 0,
  row "HANGTNOBRAIN" 132 0 (-1) "" 0,
  row "COLONGIBS" 133 0 (-1) "" 0,
  row "SMALLPOOL" 134 0 (-1) "" 0,
  row "BRAINSTEM" 135 0 (-1) "" 0,
  row "TECHLAMP" 136 0x8000 4 "" 960,
  row "TECHLAMP2" 136 0x8001 4 "" 961,
  row "TECHLAMP3" 136 0x8002 4 "" 962,
  row "TECHLAMP4" 136 0x8003 4 "" 959,
  row "TECH2LAMP" 137 0x8000 4 "" 964,
  row "TECH2LAMP2" 137 0x8001 4 "" 965,
  row "TECH2LAMP3" 137 0x8002 4 "" 966,
  row "TECH2LAMP4" 137 0x8003 4 "" 963]

/-- All frames by number. -/
def frames : Array LabelledFrame :=
  (weaponFrames ++ effectFrames ++ soldierFrames ++ fiendFrames ++ gunnerFrames
    ++ beastFrames ++ giantFrames ++ secretFrames ++ pickupFrames ++ sceneryFrames).toArray

end Baseline
end DoomPatch
