import DoomPatch.Thing
import DoomPatch.Flag

/-!
# The things of the unpatched game

The 137 things by number.  Frames and sounds are given by number, lengths in units of `unit`.
-/

namespace DoomPatch
namespace Baseline

/-- One map unit in fixed point. -/
def unit : Int := 65536

/-- A thing of the table before its own values: it drops what it always dropped. -/
def known (name : String) : Thing := { name, dropped := -1, blood := -1 }

/-- Things 0 to 42: the player and the monsters, with what they shoot and leave. -/
def creatureThings : List Thing := [
  { known "OUR_HERO" with
    doomedNum := -1, spawn := 149, see := 150, missile := 154, pain := 156, death := 158, xdeath := 165,
    painSound := 25, deathSound := 57, health := 100, reaction := 8, painChance := 255,
    radius := 16 * unit, height := 56 * unit, mass := 100,
    flags := ThingFlag.solid ||| ThingFlag.shootable ||| ThingFlag.dropOff ||| ThingFlag.pickup ||| ThingFlag.notDeathmatch,
    player := 1 },
  { known "FORMER_HUMAN" with
    doomedNum := 3004, spawn := 174, see := 176, missile := 184, pain := 187, death := 189,
    xdeath := 194, raise := 203, seeSound := 36, attackSound := 1, painSound := 27, deathSound := 59,
    activeSound := 75, health := 20, reaction := 8, painChance := 200, speed := 8, radius := 20 * unit,
    height := 56 * unit, mass := 100,
    flags := ThingFlag.solid ||| ThingFlag.shootable ||| ThingFlag.countKill },
  { known "FORMER_HUMAN_SERGEANT" with
    doomedNum := 9, spawn := 207, see := 209, missile := 217, pain := 220, death := 222, xdeath := 227,
    raise := 236, seeSound := 37, painSound := 27, deathSound := 60, activeSound := 75, health := 30,
    reaction := 8, painChance := 170, speed := 8, radius := 20 * unit, height := 56 * unit, mass := 100,
    flags := ThingFlag.solid ||| ThingFlag.shootable ||| ThingFlag.countKill },
  { known "ARCHVILE" with
    doomedNum := 64, spawn := 241, see := 243, missile := 255, pain := 269, death := 271,
    seeSound := 48, painSound := 28, deathSound := 71, activeSound := 80, health := 700, reaction := 8,
    painChance := 10, speed := 15, radius := 20 * unit, height := 56 * unit, mass := 500,
    flags := ThingFlag.solid ||| ThingFlag.shootable ||| ThingFlag.countKill,
    mbf21 := ExtendedFlag.shortRange ||| ExtendedFlag.damageIgnored ||| ExtendedFlag.noThreshold },
  { known "ARCHVILE_FIRE" with
    doomedNum := -1, spawn := 281, health := 1000, reaction := 8, radius := 20 * unit,
    height := 16 * unit, mass := 100, flags := ThingFlag.noBlockmap ||| ThingFlag.noGravity },
  { known "REVENANT" with
    doomedNum := 66, spawn := 321, see := 323, melee := 335, missile := 339, pain := 343, death := 345,
    raise := 351, seeSound := 106, painSound := 27, deathSound := 74, activeSound := 105, health := 300,
    reaction := 8, painChance := 100, speed := 10, radius := 20 * unit, height := 56 * unit,
    mass := 500, flags := ThingFlag.solid ||| ThingFlag.shootable ||| ThingFlag.countKill,
    mbf21 := ExtendedFlag.longMelee ||| ExtendedFlag.rangeHalf },
  { known "*REVENANT_MISSILE" with
    doomedNum := -1, spawn := 316, death := 318, seeSound := 107, deathSound := 82, health := 1000,
    reaction := 8, speed := 10 * unit, radius := 11 * unit, height := 8 * unit, mass := 100,
    damage := 10,
    flags := ThingFlag.noBlockmap ||| ThingFlag.missile ||| ThingFlag.dropOff ||| ThingFlag.noGravity },
  { known "SMOKE" with
    doomedNum := -1, spawn := 311, health := 1000, reaction := 8, radius := 20 * unit,
    height := 16 * unit, mass := 100, flags := ThingFlag.noBlockmap ||| ThingFlag.noGravity },
  { known "MANCUBUS" with
    doomedNum := 67, spawn := 362, see := 364, missile := 376, pain := 386, death := 388, raise := 398,
    seeSound := 49, painSound := 29, deathSound := 100, activeSound := 75, health := 600, reaction := 8,
    painChance := 80, speed := 8, radius := 48 * unit, height := 64 * unit, mass := 1000,
    flags := ThingFlag.solid ||| ThingFlag.shootable ||| ThingFlag.countKill,
    mbf21 := ExtendedFlag.map07Boss1 },
  { known "*MANCUBUS_FIREBALL" with
    doomedNum := -1, spawn := 357, death := 359, seeSound := 16, deathSound := 17, health := 1000,
    reaction := 8, speed := 20 * unit, radius := 6 * unit, height := 8 * unit, mass := 100, damage := 8,
    flags := ThingFlag.noBlockmap ||| ThingFlag.missile ||| ThingFlag.dropOff ||| ThingFlag.noGravity },
  { known "FORMER_HUMAN_COMMANDO" with
    doomedNum := 65, spawn := 406, see := 408, missile := 416, pain := 420, death := 422, xdeath := 429,
    raise := 435, seeSound := 37, painSound := 27, deathSound := 60, activeSound := 75, health := 70,
    reaction := 8, painChance := 170, speed := 8, radius := 20 * unit, height := 56 * unit, mass := 100,
    flags := ThingFlag.solid ||| ThingFlag.shootable ||| ThingFlag.countKill },
  { known "IMP" with
    doomedNum := 3001, spawn := 442, see := 444, melee := 452, missile := 452, pain := 455,
    death := 457, xdeath := 462, raise := 470, seeSound := 39, painSound := 27, deathSound := 62,
    activeSound := 76, health := 60, reaction := 8, painChance := 200, speed := 8, radius := 20 * unit,
    height := 56 * unit, mass := 100,
    flags := ThingFlag.solid ||| ThingFlag.shootable ||| ThingFlag.countKill },
  { known "DEMON" with
    doomedNum := 3002, spawn := 475, see := 477, melee := 485, pain := 488, death := 490, raise := 496,
    seeSound := 41, attackSound := 52, painSound := 26, deathSound := 64, activeSound := 77,
    health := 150, reaction := 8, painChance := 180, speed := 10, radius := 30 * unit,
    height := 56 * unit, mass := 400,
    flags := ThingFlag.solid ||| ThingFlag.shootable ||| ThingFlag.countKill },
  { known "SPECTRE" with
    doomedNum := 58, spawn := 475, see := 477, melee := 485, pain := 488, death := 490, raise := 496,
    seeSound := 41, attackSound := 52, painSound := 26, deathSound := 64, activeSound := 77,
    health := 150, reaction := 8, painChance := 180, speed := 10, radius := 30 * unit,
    height := 56 * unit, mass := 400,
    flags := ThingFlag.solid ||| ThingFlag.shootable ||| ThingFlag.countKill ||| ThingFlag.shadow },
  { known "CACODEMON" with
    doomedNum := 3005, spawn := 502, see := 503, missile := 504, pain := 507, death := 510,
    raise := 516, seeSound := 42, painSound := 26, deathSound := 65, activeSound := 77, health := 400,
    reaction := 8, painChance := 128, speed := 8, radius := 31 * unit, height := 56 * unit, mass := 400,
    flags := ThingFlag.solid ||| ThingFlag.shootable ||| ThingFlag.float ||| ThingFlag.noGravity ||| ThingFlag.countKill },
  { known "BARON_OF_HELL" with
    doomedNum := 3003, spawn := 527, see := 529, melee := 537, missile := 537, pain := 540,
    death := 542, raise := 549, seeSound := 43, painSound := 26, deathSound := 67, activeSound := 77,
    health := 1000, reaction := 8, painChance := 50, speed := 8, radius := 24 * unit,
    height := 64 * unit, mass := 1000,
    flags := ThingFlag.solid ||| ThingFlag.shootable ||| ThingFlag.countKill,
    mbf21 := ExtendedFlag.e1m8Boss, projectileGroup := some 1 },
  { known "*BARON_FIREBALL" with
    doomedNum := -1, spawn := 522, death := 524, seeSound := 16, deathSound := 17, health := 1000,
    reaction := 8, speed := 15 * unit, radius := 6 * unit, height := 8 * unit, mass := 100, damage := 8,
    flags := ThingFlag.noBlockmap ||| ThingFlag.missile ||| ThingFlag.dropOff ||| ThingFlag.noGravity },
  { known "HELL_KNIGHT" with
    doomedNum := 69, spawn := 556, see := 558, melee := 566, missile := 566, pain := 569, death := 571,
    raise := 578, seeSound := 47, painSound := 26, deathSound := 72, activeSound := 77, health := 500,
    reaction := 8, painChance := 50, speed := 8, radius := 24 * unit, height := 64 * unit, mass := 1000,
    flags := ThingFlag.solid ||| ThingFlag.shootable ||| ThingFlag.countKill,
    projectileGroup := some 1 },
  { known "LOST_SOUL" with
    doomedNum := 3006, spawn := 585, see := 587, missile := 589, pain := 593, death := 595,
    attackSound := 51, painSound := 26, deathSound := 17, activeSound := 77, health := 100,
    reaction := 8, painChance := 256, speed := 8, radius := 16 * unit, height := 56 * unit, mass := 50,
    damage := 3,
    flags := ThingFlag.solid ||| ThingFlag.shootable ||| ThingFlag.float ||| ThingFlag.noGravity,
    mbf21 := ExtendedFlag.rangeHalf },
  { known "THE_SPIDER_MASTERMIND" with
    doomedNum := 7, spawn := 601, see := 603, missile := 615, pain := 619, death := 621, seeSound := 45,
    attackSound := 2, painSound := 26, deathSound := 69, activeSound := 77, health := 3000,
    reaction := 8, painChance := 40, speed := 12, radius := 128 * unit, height := 100 * unit,
    mass := 1000, flags := ThingFlag.solid ||| ThingFlag.shootable ||| ThingFlag.countKill,
    mbf21 := ExtendedFlag.noRadiusDamage ||| ExtendedFlag.rangeHalf ||| ExtendedFlag.fullVolume ||| ExtendedFlag.e3m8Boss ||| ExtendedFlag.e4m8Boss ||| ExtendedFlag.boss },
  { known "ARACHNOTRON" with
    doomedNum := 68, spawn := 632, see := 634, missile := 647, pain := 651, death := 653, raise := 660,
    seeSound := 46, painSound := 26, deathSound := 70, activeSound := 78, health := 500, reaction := 8,
    painChance := 128, speed := 12, radius := 64 * unit, height := 64 * unit, mass := 600,
    flags := ThingFlag.solid ||| ThingFlag.shootable ||| ThingFlag.countKill,
    mbf21 := ExtendedFlag.map07Boss2 },
  { known "CYBERDEMON" with
    doomedNum := 16, spawn := 674, see := 676, missile := 684, pain := 690, death := 691,
    seeSound := 44, painSound := 26, deathSound := 68, activeSound := 77, health := 4000, reaction := 8,
    painChance := 20, speed := 16, radius := 40 * unit, height := 110 * unit, mass := 1000,
    flags := ThingFlag.solid ||| ThingFlag.shootable ||| ThingFlag.countKill,
    mbf21 := ExtendedFlag.noRadiusDamage ||| ExtendedFlag.higherProbability ||| ExtendedFlag.rangeHalf ||| ExtendedFlag.fullVolume ||| ExtendedFlag.e2m8Boss ||| ExtendedFlag.e4m6Boss ||| ExtendedFlag.boss },
  { known "PAIN_ELEMENTAL" with
    doomedNum := 71, spawn := 701, see := 702, missile := 708, pain := 712, death := 714, raise := 720,
    seeSound := 50, painSound := 30, deathSound := 73, activeSound := 77, health := 400, reaction := 8,
    painChance := 128, speed := 8, radius := 31 * unit, height := 56 * unit, mass := 400,
    flags := ThingFlag.solid ||| ThingFlag.shootable ||| ThingFlag.float ||| ThingFlag.noGravity ||| ThingFlag.countKill },
  { known "WOLFENSTEIN_SS" with
    doomedNum := 84, spawn := 726, see := 728, missile := 736, pain := 742, death := 744, xdeath := 749,
    raise := 758, seeSound := 101, painSound := 27, deathSound := 102, activeSound := 75, health := 50,
    reaction := 8, painChance := 170, speed := 8, radius := 20 * unit, height := 56 * unit, mass := 100,
    flags := ThingFlag.solid ||| ThingFlag.shootable ||| ThingFlag.countKill },
  { known "COMMANDER_KEEN" with
    doomedNum := 72, spawn := 763, pain := 776, death := 764, painSound := 103, deathSound := 104,
    health := 100, reaction := 8, painChance := 256, radius := 16 * unit, height := 72 * unit,
    mass := 10000000,
    flags := ThingFlag.solid ||| ThingFlag.spawnCeiling ||| ThingFlag.noGravity ||| ThingFlag.shootable ||| ThingFlag.countKill },
  { known "BOSS_BRAIN" with
    doomedNum := 88, spawn := 778, pain := 779, death := 780, painSound := 97, deathSound := 98,
    health := 250, reaction := 8, painChance := 255, radius := 16 * unit, height := 16 * unit,
    mass := 10000000, flags := ThingFlag.solid ||| ThingFlag.shootable },
  { known "BRAIN_SHOOTER" with
    doomedNum := 89, spawn := 784, see := 785, health := 1000, reaction := 8, radius := 20 * unit,
    height := 32 * unit, mass := 100, flags := ThingFlag.noBlockmap ||| ThingFlag.noSector },
  { known "BRAIN_SPAWNSPOT" with
    doomedNum := 87, health := 1000, reaction := 8, radius := 20 * unit, height := 32 * unit,
    mass := 100, flags := ThingFlag.noBlockmap ||| ThingFlag.noSector },
  { known "*BRAIN_CUBE" with
    doomedNum := -1, spawn := 787, seeSound := 94, deathSound := 17, health := 1000, reaction := 8,
    speed := 10 * unit, radius := 6 * unit, height := 32 * unit, mass := 100, damage := 3,
    flags := ThingFlag.noBlockmap ||| ThingFlag.missile ||| ThingFlag.dropOff ||| ThingFlag.noGravity ||| ThingFlag.noClip },
  { known "SPAWN_FIRE" with
    doomedNum := -1, spawn := 791, health := 1000, reaction := 8, radius := 20 * unit,
    height := 16 * unit, mass := 100, flags := ThingFlag.noBlockmap ||| ThingFlag.noGravity },
  { known "BARREL" with
    doomedNum := 2035, spawn := 806, death := 808, deathSound := 82, health := 20, reaction := 8,
    radius := 10 * unit, height := 42 * unit, mass := 100,
    flags := ThingFlag.solid ||| ThingFlag.shootable ||| ThingFlag.noBlood },
  { known "*IMP_FIREBALL" with
    doomedNum := -1, spawn := 97, death := 99, seeSound := 16, deathSound := 17, health := 1000,
    reaction := 8, speed := 10 * unit, radius := 6 * unit, height := 8 * unit, mass := 100, damage := 3,
    flags := ThingFlag.noBlockmap ||| ThingFlag.missile ||| ThingFlag.dropOff ||| ThingFlag.noGravity },
  { known "*CACO_FIREBALL" with
    doomedNum := -1, spawn := 102, death := 104, seeSound := 16, deathSound := 17, health := 1000,
    reaction := 8, speed := 10 * unit, radius := 6 * unit, height := 8 * unit, mass := 100, damage := 5,
    flags := ThingFlag.noBlockmap ||| ThingFlag.missile ||| ThingFlag.dropOff ||| ThingFlag.noGravity },
  { known "*PLAYER_MISSILE" with
    doomedNum := -1, spawn := 114, death := 127, seeSound := 14, deathSound := 82, health := 1000,
    reaction := 8, speed := 20 * unit, radius := 11 * unit, height := 8 * unit, mass := 100,
    damage := 20,
    flags := ThingFlag.noBlockmap ||| ThingFlag.missile ||| ThingFlag.dropOff ||| ThingFlag.noGravity },
  { known "*PLAYER_PLASMA" with
    doomedNum := -1, spawn := 107, death := 109, seeSound := 8, deathSound := 17, health := 1000,
    reaction := 8, speed := 25 * unit, radius := 13 * unit, height := 8 * unit, mass := 100,
    damage := 5,
    flags := ThingFlag.noBlockmap ||| ThingFlag.missile ||| ThingFlag.dropOff ||| ThingFlag.noGravity },
  { known "*PLAYER_BFG9000" with
    doomedNum := -1, spawn := 115, death := 117, deathSound := 15, health := 1000, reaction := 8,
    speed := 25 * unit, radius := 13 * unit, height := 8 * unit, mass := 100, damage := 100,
    flags := ThingFlag.noBlockmap ||| ThingFlag.missile ||| ThingFlag.dropOff ||| ThingFlag.noGravity },
  { known "*ARACHNOTRON_PLASMA" with
    doomedNum := -1, spawn := 667, death := 669, seeSound := 8, deathSound := 17, health := 1000,
    reaction := 8, speed := 25 * unit, radius := 13 * unit, height := 8 * unit, mass := 100,
    damage := 5,
    flags := ThingFlag.noBlockmap ||| ThingFlag.missile ||| ThingFlag.dropOff ||| ThingFlag.noGravity },
  { known "PUFF" with
    doomedNum := -1, spawn := 93, health := 1000, reaction := 8, radius := 20 * unit,
    height := 16 * unit, mass := 100, flags := ThingFlag.noBlockmap ||| ThingFlag.noGravity },
  { known "BLOOD" with
    doomedNum := -1, spawn := 90, health := 1000, reaction := 8, radius := 20 * unit,
    height := 16 * unit, mass := 100, flags := ThingFlag.noBlockmap },
  { known "TELEPORT_FOG" with
    doomedNum := -1, spawn := 130, health := 1000, reaction := 8, radius := 20 * unit,
    height := 16 * unit, mass := 100, flags := ThingFlag.noBlockmap ||| ThingFlag.noGravity },
  { known "RESPAWN_FLASH" with
    doomedNum := -1, spawn := 142, health := 1000, reaction := 8, radius := 20 * unit,
    height := 16 * unit, mass := 100, flags := ThingFlag.noBlockmap ||| ThingFlag.noGravity },
  { known "TELEPORT_FLASH" with
    doomedNum := 14, health := 1000, reaction := 8, radius := 20 * unit, height := 16 * unit,
    mass := 100, flags := ThingFlag.noBlockmap ||| ThingFlag.noSector },
  { known "EXTRA_BFG" with
    doomedNum := -1, spawn := 123, health := 1000, reaction := 8, radius := 20 * unit,
    height := 16 * unit, mass := 100, flags := ThingFlag.noBlockmap ||| ThingFlag.noGravity }]

/-- Things 43 to 78: armour, keys, powers, ammunition and weapons. -/
def pickupThings : List Thing := [
  { known "GREEN_ARMOUR" with
    doomedNum := 2018, spawn := 802, health := 1000, reaction := 8, radius := 20 * unit,
    height := 16 * unit, mass := 100, flags := ThingFlag.special },
  { known "BLUE_ARMOUR" with
    doomedNum := 2019, spawn := 804, health := 1000, reaction := 8, radius := 20 * unit,
    height := 16 * unit, mass := 100, flags := ThingFlag.special },
  { known "HEALTH_POTION" with
    doomedNum := 2014, spawn := 816, health := 1000, reaction := 8, radius := 20 * unit,
    height := 16 * unit, mass := 100, flags := ThingFlag.special ||| ThingFlag.countItem },
  { known "ARMOUR_HELMET" with
    doomedNum := 2015, spawn := 822, health := 1000, reaction := 8, radius := 20 * unit,
    height := 16 * unit, mass := 100, flags := ThingFlag.special ||| ThingFlag.countItem },
  { known "BLUE_KEYCARD" with
    doomedNum := 5, spawn := 828, health := 1000, reaction := 8, radius := 20 * unit,
    height := 16 * unit, mass := 100, flags := ThingFlag.special ||| ThingFlag.notDeathmatch },
  { known "RED_KEYCARD" with
    doomedNum := 13, spawn := 830, health := 1000, reaction := 8, radius := 20 * unit,
    height := 16 * unit, mass := 100, flags := ThingFlag.special ||| ThingFlag.notDeathmatch },
  { known "YELLOW_KEYCARD" with
    doomedNum := 6, spawn := 832, health := 1000, reaction := 8, radius := 20 * unit,
    height := 16 * unit, mass := 100, flags := ThingFlag.special ||| ThingFlag.notDeathmatch },
  { known "YELLOW_SKULLKEY" with
    doomedNum := 39, spawn := 838, health := 1000, reaction := 8, radius := 20 * unit,
    height := 16 * unit, mass := 100, flags := ThingFlag.special ||| ThingFlag.notDeathmatch },
  { known "RED_SKULLKEY" with
    doomedNum := 38, spawn := 836, health := 1000, reaction := 8, radius := 20 * unit,
    height := 16 * unit, mass := 100, flags := ThingFlag.special ||| ThingFlag.notDeathmatch },
  { known "BLUE_SKULLKEY" with
    doomedNum := 40, spawn := 834, health := 1000, reaction := 8, radius := 20 * unit,
    height := 16 * unit, mass := 100, flags := ThingFlag.special ||| ThingFlag.notDeathmatch },
  { known "STIMPACK" with
    doomedNum := 2011, spawn := 840, health := 1000, reaction := 8, radius := 20 * unit,
    height := 16 * unit, mass := 100, flags := ThingFlag.special },
  { known "MEDIKIT" with
    doomedNum := 2012, spawn := 841, health := 1000, reaction := 8, radius := 20 * unit,
    height := 16 * unit, mass := 100, flags := ThingFlag.special },
  { known "SOULSPHERE" with
    doomedNum := 2013, spawn := 842, health := 1000, reaction := 8, radius := 20 * unit,
    height := 16 * unit, mass := 100, flags := ThingFlag.special ||| ThingFlag.countItem },
  { known "INVULNERABILITY" with
    doomedNum := 2022, spawn := 848, health := 1000, reaction := 8, radius := 20 * unit,
    height := 16 * unit, mass := 100, flags := ThingFlag.special ||| ThingFlag.countItem },
  { known "BERSERK" with
    doomedNum := 2023, spawn := 852, health := 1000, reaction := 8, radius := 20 * unit,
    height := 16 * unit, mass := 100, flags := ThingFlag.special ||| ThingFlag.countItem },
  { known "INVISIBILITY" with
    doomedNum := 2024, spawn := 853, health := 1000, reaction := 8, radius := 20 * unit,
    height := 16 * unit, mass := 100, flags := ThingFlag.special ||| ThingFlag.countItem },
  { known "RADIATION_SUIT" with
    doomedNum := 2025, spawn := 861, health := 1000, reaction := 8, radius := 20 * unit,
    height := 16 * unit, mass := 100, flags := ThingFlag.special },
  { known "AUTOMAP" with
    doomedNum := 2026, spawn := 862, health := 1000, reaction := 8, radius := 20 * unit,
    height := 16 * unit, mass := 100, flags := ThingFlag.special ||| ThingFlag.countItem },
  { known "LIGHT_AMP" with
    doomedNum := 2045, spawn := 868, health := 1000, reaction := 8, radius := 20 * unit,
    height := 16 * unit, mass := 100, flags := ThingFlag.special ||| ThingFlag.countItem },
  { known "MEGASPHERE" with
    doomedNum := 83, spawn := 857, health := 1000, reaction := 8, radius := 20 * unit,
    height := 16 * unit, mass := 100, flags := ThingFlag.special ||| ThingFlag.countItem },
  { known "CLIP" with
    doomedNum := 2007, spawn := 870, health := 1000, reaction := 8, radius := 20 * unit,
    height := 16 * unit, mass := 100, flags := ThingFlag.special },
  { known "BOX_OF_BULLETS" with
    doomedNum := 2048, spawn := 871, health := 1000, reaction := 8, radius := 20 * unit,
    height := 16 * unit, mass := 100, flags := ThingFlag.special },
  { known "ROCKET" with
    doomedNum := 2010, spawn := 872, health := 1000, reaction := 8, radius := 20 * unit,
    height := 16 * unit, mass := 100, flags := ThingFlag.special },
  { known "BOX_OF_ROCKETS" with
    doomedNum := 2046, spawn := 873, health := 1000, reaction := 8, radius := 20 * unit,
    height := 16 * unit, mass := 100, flags := ThingFlag.special },
  { known "CELLS" with
    doomedNum := 2047, spawn := 874, health := 1000, reaction := 8, radius := 20 * unit,
    height := 16 * unit, mass := 100, flags := ThingFlag.special },
  { known "CELL_PACK" with
    doomedNum := 17, spawn := 875, health := 1000, reaction := 8, radius := 20 * unit,
    height := 16 * unit, mass := 100, flags := ThingFlag.special },
  { known "SHELLS" with
    doomedNum := 2008, spawn := 876, health := 1000, reaction := 8, radius := 20 * unit,
    height := 16 * unit, mass := 100, flags := ThingFlag.special },
  { known "BOX_OF_SHELLS" with
    doomedNum := 2049, spawn := 877, health := 1000, reaction := 8, radius := 20 * unit,
    height := 16 * unit, mass := 100, flags := ThingFlag.special },
  { known "BACKPACK" with
    doomedNum := 8, spawn := 878, health := 1000, reaction := 8, radius := 20 * unit,
    height := 16 * unit, mass := 100, flags := ThingFlag.special },
  { known "BFG9000" with
    doomedNum := 2006, spawn := 879, health := 1000, reaction := 8, radius := 20 * unit,
    height := 16 * unit, mass := 100, flags := ThingFlag.special },
  { known "CHAINGUN" with
    doomedNum := 2002, spawn := 880, health := 1000, reaction := 8, radius := 20 * unit,
    height := 16 * unit, mass := 100, flags := ThingFlag.special },
  { known "CHAINSAW" with
    doomedNum := 2005, spawn := 881, health := 1000, reaction := 8, radius := 20 * unit,
    height := 16 * unit, mass := 100, flags := ThingFlag.special },
  { known "ROCKET_LAUNCHER" with
    doomedNum := 2003, spawn := 882, health := 1000, reaction := 8, radius := 20 * unit,
    height := 16 * unit, mass := 100, flags := ThingFlag.special },
  { known "PLASMA_RIFLE" with
    doomedNum := 2004, spawn := 883, health := 1000, reaction := 8, radius := 20 * unit,
    height := 16 * unit, mass := 100, flags := ThingFlag.special },
  { known "SHOTGUN" with
    doomedNum := 2001, spawn := 884, health := 1000, reaction := 8, radius := 20 * unit,
    height := 16 * unit, mass := 100, flags := ThingFlag.special },
  { known "SUPER_SHOTGUN" with
    doomedNum := 82, spawn := 885, health := 1000, reaction := 8, radius := 20 * unit,
    height := 16 * unit, mass := 100, flags := ThingFlag.special }]

/-- Things 79 to 136: decorations. -/
def sceneryThings : List Thing := [
  { known "TECH_LAMP" with
    doomedNum := 85, spawn := 959, health := 1000, reaction := 8, radius := 16 * unit,
    height := 80 * unit, mass := 100, flags := ThingFlag.solid },
  { known "SMALL_TECH_LAMP" with
    doomedNum := 86, spawn := 963, health := 1000, reaction := 8, radius := 16 * unit,
    height := 60 * unit, mass := 100, flags := ThingFlag.solid },
  { known "LIGHT_COLUMN" with
    doomedNum := 2028, spawn := 886, health := 1000, reaction := 8, radius := 16 * unit,
    height := 48 * unit, mass := 100, flags := ThingFlag.solid },
  { known "TALL_GREEN_PILLAR" with
    doomedNum := 30, spawn := 907, health := 1000, reaction := 8, radius := 16 * unit,
    height := 52 * unit, mass := 100, flags := ThingFlag.solid },
  { known "SHORT_GREEN_PILLAR" with
    doomedNum := 31, spawn := 908, health := 1000, reaction := 8, radius := 16 * unit,
    height := 40 * unit, mass := 100, flags := ThingFlag.solid },
  { known "TALL_RED_PILLAR" with
    doomedNum := 32, spawn := 909, health := 1000, reaction := 8, radius := 16 * unit,
    height := 52 * unit, mass := 100, flags := ThingFlag.solid },
  { known "SHORT_RED_PILLAR" with
    doomedNum := 33, spawn := 910, health := 1000, reaction := 8, radius := 16 * unit,
    height := 40 * unit, mass := 100, flags := ThingFlag.solid },
  { known "SKULL_COLUMN" with
    doomedNum := 37, spawn := 913, health := 1000, reaction := 8, radius := 16 * unit,
    height := 40 * unit, mass := 100, flags := ThingFlag.solid },
  { known "HEART_COLUMN" with
    doomedNum := 36, spawn := 924, health := 1000, reaction := 8, radius := 16 * unit,
    height := 40 * unit, mass := 100, flags := ThingFlag.solid },
  { known "EVIL_EYE" with
    doomedNum := 41, spawn := 917, health := 1000, reaction := 8, radius := 16 * unit,
    height := 54 * unit, mass := 100, flags := ThingFlag.solid },
  { known "FLOATING_SKULLROCK" with
    doomedNum := 42, spawn := 921, health := 1000, reaction := 8, radius := 16 * unit,
    height := 26 * unit, mass := 100, flags := ThingFlag.solid },
  { known "TORCHED_TREE" with
    doomedNum := 43, spawn := 914, health := 1000, reaction := 8, radius := 16 * unit,
    height := 56 * unit, mass := 100, flags := ThingFlag.solid },
  { known "BLUE_TORCH" with
    doomedNum := 44, spawn := 926, health := 1000, reaction := 8, radius := 16 * unit,
    height := 68 * unit, mass := 100, flags := ThingFlag.solid },
  { known "GREEN_TORCH" with
    doomedNum := 45, spawn := 930, health := 1000, reaction := 8, radius := 16 * unit,
    height := 68 * unit, mass := 100, flags := ThingFlag.solid },
  { known "RED_TORCH" with
    doomedNum := 46, spawn := 934, health := 1000, reaction := 8, radius := 16 * unit,
    height := 68 * unit, mass := 100, flags := ThingFlag.solid },
  { known "SHORT_BLUE_TORCH" with
    doomedNum := 55, spawn := 938, health := 1000, reaction := 8, radius := 16 * unit,
    height := 37 * unit, mass := 100, flags := ThingFlag.solid },
  { known "SHORT_GREEN_TORCH" with
    doomedNum := 56, spawn := 942, health := 1000, reaction := 8, radius := 16 * unit,
    height := 37 * unit, mass := 100, flags := ThingFlag.solid },
  { known "SHORT_RED_TORCH" with
    doomedNum := 57, spawn := 946, health := 1000, reaction := 8, radius := 16 * unit,
    height := 37 * unit, mass := 100, flags := ThingFlag.solid },
  { known "STALAGMITE" with
    doomedNum := 47, spawn := 906, health := 1000, reaction := 8, radius := 16 * unit,
    height := 40 * unit, mass := 100, flags := ThingFlag.solid },
  { known "TECH_PILLAR" with
    doomedNum := 48, spawn := 916, health := 1000, reaction := 8, radius := 16 * unit,
    height := 128 * unit, mass := 100, flags := ThingFlag.solid },
  { known "CANDLE" with
    doomedNum := 34, spawn := 911, health := 1000, reaction := 8, radius := 20 * unit,
    height := 14 * unit, mass := 100 },
  { known "CANDELABRA" with
    doomedNum := 35, spawn := 912, health := 1000, reaction := 8, radius := 16 * unit,
    height := 60 * unit, mass := 100, flags := ThingFlag.solid },
  { known "HANGING_TWITCHING_BODY" with
    doomedNum := 49, spawn := 888, health := 1000, reaction := 8, radius := 16 * unit,
    height := 68 * unit, mass := 100,
    flags := ThingFlag.solid ||| ThingFlag.spawnCeiling ||| ThingFlag.noGravity },
  { known "HANGING_BODY_ARMS_OUT" with
    doomedNum := 50, spawn := 902, health := 1000, reaction := 8, radius := 16 * unit,
    height := 84 * unit, mass := 100,
    flags := ThingFlag.solid ||| ThingFlag.spawnCeiling ||| ThingFlag.noGravity },
  { known "HANGING_BODY_ONE_LEG" with
    doomedNum := 51, spawn := 903, health := 1000, reaction := 8, radius := 16 * unit,
    height := 84 * unit, mass := 100,
    flags := ThingFlag.solid ||| ThingFlag.spawnCeiling ||| ThingFlag.noGravity },
  { known "HANGING_TORSO" with
    doomedNum := 52, spawn := 904, health := 1000, reaction := 8, radius := 16 * unit,
    height := 68 * unit, mass := 100,
    flags := ThingFlag.solid ||| ThingFlag.spawnCeiling ||| ThingFlag.noGravity },
  { known "HANGING_LEG" with
    doomedNum := 53, spawn := 905, health := 1000, reaction := 8, radius := 16 * unit,
    height := 52 * unit, mass := 100,
    flags := ThingFlag.solid ||| ThingFlag.spawnCeiling ||| ThingFlag.noGravity },
  { known "HANGING_BODY_ARMS_OUT_2" with
    doomedNum := 59, spawn := 902, health := 1000, reaction := 8, radius := 20 * unit,
    height := 84 * unit, mass := 100, flags := ThingFlag.spawnCeiling ||| ThingFlag.noGravity },
  { known "HANGING_TORSO_2" with
    doomedNum := 60, spawn := 904, health := 1000, reaction := 8, radius := 20 * unit,
    height := 68 * unit, mass := 100, flags := ThingFlag.spawnCeiling ||| ThingFlag.noGravity },
  { known "HANGING_BODY_ONE_LEG_2" with
    doomedNum := 61, spawn := 903, health := 1000, reaction := 8, radius := 20 * unit,
    height := 52 * unit, mass := 100, flags := ThingFlag.spawnCeiling ||| ThingFlag.noGravity },
  { known "HANGING_LEG_2" with
    doomedNum := 62, spawn := 905, health := 1000, reaction := 8, radius := 20 * unit,
    height := 52 * unit, mass := 100, flags := ThingFlag.spawnCeiling ||| ThingFlag.noGravity },
  { known "HANGING_TWITCHING_BODY_2" with
    doomedNum := 63, spawn := 888, health := 1000, reaction := 8, radius := 20 * unit,
    height := 68 * unit, mass := 100, flags := ThingFlag.spawnCeiling ||| ThingFlag.noGravity },
  { known "DEAD_CACODEMON" with
    doomedNum := 22, spawn := 515, health := 1000, reaction := 8, radius := 20 * unit,
    height := 16 * unit, mass := 100 },
  { known "DEAD_PLAYER" with
    doomedNum := 15, spawn := 164, health := 1000, reaction := 8, radius := 20 * unit,
    height := 16 * unit, mass := 100 },
  { known "DEAD_FORMER_HUMAN" with
    doomedNum := 18, spawn := 193, health := 1000, reaction := 8, radius := 20 * unit,
    height := 16 * unit, mass := 100 },
  { known "DEAD_DEMON" with
    doomedNum := 21, spawn := 495, health := 1000, reaction := 8, radius := 20 * unit,
    height := 16 * unit, mass := 100 },
  { known "DEAD_LOST_SOUL" with
    doomedNum := 23, spawn := 600, health := 1000, reaction := 8, radius := 20 * unit,
    height := 16 * unit, mass := 100 },
  { known "DEAD_IMP" with
    doomedNum := 20, spawn := 461, health := 1000, reaction := 8, radius := 20 * unit,
    height := 16 * unit, mass := 100 },
  { known "DEAD_FORMER_SERGEANT" with
    doomedNum := 19, spawn := 226, health := 1000, reaction := 8, radius := 20 * unit,
    height := 16 * unit, mass := 100 },
  { known "GIBBED_PLAYER" with
    doomedNum := 10, spawn := 173, health := 1000, reaction := 8, radius := 20 * unit,
    height := 16 * unit, mass := 100 },
  { known "GIBBED_PLAYER_2" with
    doomedNum := 12, spawn := 173, health := 1000, reaction := 8, radius := 20 * unit,
    height := 16 * unit, mass := 100 },
  { known "SKEWERED_HEADS" with
    doomedNum := 28, spawn := 894, health := 1000, reaction := 8, radius := 16 * unit,
    height := 16 * unit, mass := 100, flags := ThingFlag.solid },
  { known "GIBS" with
    doomedNum := 24, spawn := 895, health := 1000, reaction := 8, radius := 20 * unit,
    height := 16 * unit, mass := 100 },
  { known "SKULL_ON_POLE" with
    doomedNum := 27, spawn := 896, health := 1000, reaction := 8, radius := 16 * unit,
    height := 16 * unit, mass := 100, flags := ThingFlag.solid },
  { known "SKULL_CANDLES" with
    doomedNum := 29, spawn := 897, health := 1000, reaction := 8, radius := 16 * unit,
    height := 16 * unit, mass := 100, flags := ThingFlag.solid },
  { known "IMPALED_BODY" with
    doomedNum := 25, spawn := 899, health := 1000, reaction := 8, radius := 16 * unit,
    height := 16 * unit, mass := 100, flags := ThingFlag.solid },
  { known "TWITCHING_IMPALED_BODY" with
    doomedNum := 26, spawn := 900, health := 1000, reaction := 8, radius := 16 * unit,
    height := 16 * unit, mass := 100, flags := ThingFlag.solid },
  { known "BIG_TREE" with
    doomedNum := 54, spawn := 915, health := 1000, reaction := 8, radius := 32 * unit,
    height := 16 * unit, mass := 100, flags := ThingFlag.solid },
  { known "BURNING_BARREL" with
    doomedNum := 70, spawn := 813, health := 1000, reaction := 8, radius := 16 * unit,
    height := 16 * unit, mass := 100, flags := ThingFlag.solid },
  { known "HANGING_NO_GUTS" with
    doomedNum := 73, spawn := 950, health := 1000, reaction := 8, radius := 16 * unit,
    height := 88 * unit, mass := 100,
    flags := ThingFlag.solid ||| ThingFlag.spawnCeiling ||| ThingFlag.noGravity },
  { known "HANGING_NO_BRAIN" with
    doomedNum := 74, spawn := 951, health := 1000, reaction := 8, radius := 16 * unit,
    height := 88 * unit, mass := 100,
    flags := ThingFlag.solid ||| ThingFlag.spawnCeiling ||| ThingFlag.noGravity },
  { known "HANGING_LOOKING_DOWN" with
    doomedNum := 75, spawn := 952, health := 1000, reaction := 8, radius := 16 * unit,
    height := 64 * unit, mass := 100,
    flags := ThingFlag.solid ||| ThingFlag.spawnCeiling ||| ThingFlag.noGravity },
  { known "HANGING_OPEN_SKULL" with
    doomedNum := 76, spawn := 953, health := 1000, reaction := 8, radius := 16 * unit,
    height := 64 * unit, mass := 100,
    flags := ThingFlag.solid ||| ThingFlag.spawnCeiling ||| ThingFlag.noGravity },
  { known "HANGING_LOOKING_UP" with
    doomedNum := 77, spawn := 954, health := 1000, reaction := 8, radius := 16 * unit,
    height := 64 * unit, mass := 100,
    flags := ThingFlag.solid ||| ThingFlag.spawnCeiling ||| ThingFlag.noGravity },
  { known "HANGING_BRAIN_REMOVED" with
    doomedNum := 78, spawn := 955, health := 1000, reaction := 8, radius := 16 * unit,
    height := 64 * unit, mass := 100,
    flags := ThingFlag.solid ||| ThingFlag.spawnCeiling ||| ThingFlag.noGravity },
  { known "POOL_OF_BLOOD" with
    doomedNum := 79, spawn := 956, health := 1000, reaction := 8, radius := 20 * unit,
    height := 16 * unit, mass := 100, flags := ThingFlag.noBlockmap },
  { known "SMALL_POOL_OF_BLOOD" with
    doomedNum := 80, spawn := 957, health := 1000, reaction := 8, radius := 20 * unit,
    height := 16 * unit, mass := 100, flags := ThingFlag.noBlockmap },
  { known "BRAIN_STEM" with
    doomedNum := 81, spawn := 958, health := 1000, reaction := 8, radius := 20 * unit,
    height := 16 * unit, mass := 100, flags := ThingFlag.noBlockmap }]

/-- All things by number. -/
def things : Array Thing := (creatureThings ++ pickupThings ++ sceneryThings).toArray

end Baseline
end DoomPatch
