import DoomPatch.Sound

/-!
# The sounds of the unpatched game
-/

namespace DoomPatch
namespace Baseline

/-- One line of the table: a name and a priority. -/
def effect (name : String) (priority : Int) : Sound := { name, priority }

/-- The 109 sounds by number.  Number 0 means no sound and has no name. -/
def sounds : Array Sound := #[
  effect "" 0,
  effect "pistol" 64,
  effect "shotgn" 64,
  effect "sgcock" 64,
  effect "dshtgn" 64,
  effect "dbopn" 64,
  effect "dbcls" 64,
  effect "dbload" 64,
  effect "plasma" 64,
  effect "bfg" 64,
  effect "sawup" 64,
  effect "sawidl" 118,
  effect "sawful" 64,
  effect "sawhit" 64,
  effect "rlaunc" 64,
  effect "rxplod" 70,
  effect "firsht" 70,
  effect "firxpl" 70,
  effect "pstart" 100,
  effect "pstop" 100,
  effect "doropn" 100,
  effect "dorcls" 100,
  effect "stnmov" 119,
  effect "swtchn" 78,
  effect "swtchx" 78,
  effect "plpain" 96,
  effect "dmpain" 96,
  effect "popain" 96,
  effect "vipain" 96,
  effect "mnpain" 96,
  effect "pepain" 96,
  effect "slop" 78,
  effect "itemup" 78,
  effect "wpnup" 78,
  effect "oof" 96,
  effect "telept" 32,
  effect "posit1" 98,
  effect "posit2" 98,
  effect "posit3" 98,
  effect "bgsit1" 98,
  effect "bgsit2" 98,
  effect "sgtsit" 98,
  effect "cacsit" 98,
  effect "brssit" 94,
  effect "cybsit" 92,
  effect "spisit" 90,
  effect "bspsit" 90,
  effect "kntsit" 90,
  effect "vilsit" 90,
  effect "mansit" 90,
  effect "pesit" 90,
  effect "sklatk" 70,
  effect "sgtatk" 70,
  effect "skepch" 70,
  effect "vilatk" 70,
  effect "claw" 70,
  effect "skeswg" 70,
  effect "pldeth" 32,
  effect "pdiehi" 32,
  effect "podth1" 70,
  effect "podth2" 70,
  effect "podth3" 70,
  effect "bgdth1" 70,
  effect "bgdth2" 70,
  effect "sgtdth" 70,
  effect "cacdth" 70,
  effect "skldth" 70,
  effect "brsdth" 32,
  effect "cybdth" 32,
  effect "spidth" 32,
  effect "bspdth" 32,
  effect "vildth" 32,
  effect "kntdth" 32,
  effect "pedth" 32,
  effect "skedth" 32,
  effect "posact" 120,
  effect "bgact" 120,
  effect "dmact" 120,
  effect "bspact" 100,
  effect "bspwlk" 100,
  effect "vilact" 100,
  effect "noway" 78,
  effect "barexp" 60,
  effect "punch" 64,
  effect "hoof" 70,
  effect "metal" 70,
  effect "chgun" 64,
  effect "tink" 60,
  effect "bdopn" 100,
  effect "bdcls" 100,
  effect "itmbk" 100,
  effect "flame" 32,
  effect "flamst" 32,
  effect "getpow" 60,
  effect "bospit" 70,
  effect "boscub" 70,
  effect "bossit" 70,
  effect "bospn" 70,
  effect "bosdth" 70,
  effect "manatk" 70,
  effect "mandth" 70,
  effect "sssit" 70,
  effect "ssdth" 70,
  effect "keenpn" 70,
  effect "keendt" 70,
  effect "skeact" 70,
  effect "skesit" 70,
  effect "skeatk" 70,
  effect "radio" 60]

end Baseline
end DoomPatch
