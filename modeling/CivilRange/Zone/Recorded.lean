import CivilRange.Zone.History

set_option autoImplicit false

namespace CivilRange.History

def constant (offset : Int) : History := ⟨offset, []⟩

def parisRecorded : History where
  initial := 561
  changes := [
    ⟨60279637839, 0⟩, ⟨60445782000, 3600⟩, ⟨60455199600, 0⟩, ⟨60470233200, 3600⟩,
    ⟨60487254000, 0⟩, ⟨60500473200, 3600⟩, ⟨60518703600, 0⟩, ⟨60531318000, 3600⟩,
    ⟨60550153200, 0⟩, ⟨60561558000, 3600⟩, ⟨60583330800, 0⟩, ⟨60595599600, 3600⟩,
    ⟨60615039600, 0⟩, ⟨60628086000, 3600⟩, ⟨60645020400, 0⟩, ⟨60664978800, 3600⟩,
    ⟨60676470000, 0⟩, ⟨60691590000, 3600⟩, ⟨60707919600, 0⟩, ⟨60723644400, 3600⟩,
    ⟨60739369200, 0⟩, ⟨60756303600, 3600⟩, ⟨60770818800, 0⟩, ⟨60787148400, 3600⟩,
    ⟨60802268400, 0⟩, ⟨60819202800, 3600⟩, ⟨60834322800, 0⟩, ⟨60851257200, 3600⟩,
    ⟨60865772400, 0⟩, ⟨60882102000, 3600⟩, ⟨60897222000, 0⟩, ⟨60914156400, 3600⟩,
    ⟨60928671600, 0⟩, ⟨60944396400, 3600⟩, ⟨60960121200, 0⟩, ⟨60975241200, 3600⟩,
    ⟨60992175600, 0⟩, ⟨61007900400, 3600⟩, ⟨61023625200, 0⟩, ⟨61038745200, 3600⟩,
    ⟨61055074800, 0⟩, ⟨61072009200, 3600⟩, ⟨61086524400, 0⟩, ⟨61102249200, 3600⟩,
    ⟨61117974000, 0⟩, ⟨61133094000, 3600⟩, ⟨61149423600, 0⟩, ⟨61166358000, 3600⟩,
    ⟨61185106800, 0⟩, ⟨61193584800, 3600⟩, ⟨61203160800, 7200⟩, ⟨61278339600, 3600⟩,
    ⟨61291040400, 7200⟩, ⟨61307370000, 3600⟩, ⟨61323094800, 7200⟩, ⟨61339330800, 3600⟩,
    ⟨61354544400, 7200⟩, ⟨61368973200, 3600⟩, ⟨62332416000, 7200⟩, ⟨62348137200, 3600⟩,
    ⟨62364474000, 7200⟩, ⟨62379594000, 3600⟩, ⟨62395923600, 7200⟩, ⟨62411648400, 3600⟩,
    ⟨62427373200, 7200⟩, ⟨62443098000, 3600⟩, ⟨62459427600, 7200⟩, ⟨62474547600, 3600⟩,
    ⟨62490272400, 7200⟩, ⟨62505997200, 3600⟩, ⟨62521722000, 7200⟩, ⟨62537446800, 3600⟩,
    ⟨62553171600, 7200⟩, ⟨62568896400, 3600⟩, ⟨62584621200, 7200⟩, ⟨62600950800, 3600⟩,
    ⟨62616675600, 7200⟩, ⟨62632400400, 3600⟩, ⟨62648125200, 7200⟩, ⟨62663850000, 3600⟩,
    ⟨62679574800, 7200⟩, ⟨62695299600, 3600⟩, ⟨62711024400, 7200⟩, ⟨62726749200, 3600⟩,
    ⟨62742474000, 7200⟩, ⟨62758198800, 3600⟩, ⟨62773923600, 7200⟩, ⟨62790253200, 3600⟩,
    ⟨62805978000, 7200⟩, ⟨62821702800, 3600⟩, ⟨62837427600, 7200⟩, ⟨62853152400, 3600⟩,
    ⟨62868877200, 7200⟩, ⟨62884602000, 3600⟩, ⟨62900326800, 7200⟩, ⟨62916051600, 3600⟩,
    ⟨62931776400, 7200⟩, ⟨62947501200, 3600⟩, ⟨62963830800, 7200⟩]

def parisRule : YearlyRule := ⟨⟨3, .last, 3600, 7200⟩, ⟨10, .last, 3600, 3600⟩⟩

def paris : History := parisRecorded.continuedBy parisRule 1996

def newYorkRecorded : History where
  initial := -17762
  changes := [
    ⟨59417946000, -18000⟩, ⟨60502316400, -14400⟩, ⟨60520456800, -18000⟩, ⟨60533766000, -14400⟩,
    ⟨60551906400, -18000⟩, ⟨60565215600, -14400⟩, ⟨60583960800, -18000⟩, ⟨60599084400, -14400⟩,
    ⟨60612386400, -18000⟩, ⟨60631138800, -14400⟩, ⟨60643836000, -18000⟩, ⟨60662588400, -14400⟩,
    ⟨60675890400, -18000⟩, ⟨60694038000, -14400⟩, ⟨60707340000, -18000⟩, ⟨60725487600, -14400⟩,
    ⟨60738789600, -18000⟩, ⟨60756937200, -14400⟩, ⟨60770239200, -18000⟩, ⟨60788386800, -14400⟩,
    ⟨60801688800, -18000⟩, ⟨60820441200, -14400⟩, ⟨60833743200, -18000⟩, ⟨60851890800, -14400⟩,
    ⟨60865192800, -18000⟩, ⟨60883340400, -14400⟩, ⟨60896642400, -18000⟩, ⟨60914790000, -14400⟩,
    ⟨60928092000, -18000⟩, ⟨60946239600, -14400⟩, ⟨60959541600, -18000⟩, ⟨60978294000, -14400⟩,
    ⟨60990991200, -18000⟩, ⟨61009743600, -14400⟩, ⟨61023045600, -18000⟩, ⟨61041193200, -14400⟩,
    ⟨61054495200, -18000⟩, ⟨61072642800, -14400⟩, ⟨61085944800, -18000⟩, ⟨61104092400, -14400⟩,
    ⟨61117394400, -18000⟩, ⟨61135542000, -14400⟩, ⟨61148844000, -18000⟩, ⟨61167596400, -14400⟩,
    ⟨61180293600, -18000⟩, ⟨61199046000, -14400⟩, ⟨61212348000, -18000⟩, ⟨61230495600, -14400⟩,
    ⟨61243797600, -18000⟩, ⟨61255378800, -14400⟩, ⟨61370200800, -18000⟩, ⟨61388348400, -14400⟩,
    ⟨61401650400, -18000⟩, ⟨61419798000, -14400⟩, ⟨61433100000, -18000⟩, ⟨61451247600, -14400⟩,
    ⟨61464549600, -18000⟩, ⟨61482697200, -14400⟩, ⟨61495999200, -18000⟩, ⟨61514751600, -14400⟩,
    ⟨61527448800, -18000⟩, ⟨61546201200, -14400⟩, ⟨61559503200, -18000⟩, ⟨61577650800, -14400⟩,
    ⟨61590952800, -18000⟩, ⟨61609100400, -14400⟩, ⟨61622402400, -18000⟩, ⟨61640550000, -14400⟩,
    ⟨61653852000, -18000⟩, ⟨61671999600, -14400⟩, ⟨61688325600, -18000⟩, ⟨61704054000, -14400⟩,
    ⟨61719775200, -18000⟩, ⟨61735503600, -14400⟩, ⟨61751224800, -18000⟩, ⟨61766953200, -14400⟩,
    ⟨61782674400, -18000⟩, ⟨61798402800, -14400⟩, ⟨61814124000, -18000⟩, ⟨61829852400, -14400⟩,
    ⟨61846178400, -18000⟩, ⟨61861906800, -14400⟩, ⟨61877628000, -18000⟩, ⟨61893356400, -14400⟩,
    ⟨61909077600, -18000⟩, ⟨61924806000, -14400⟩, ⟨61940527200, -18000⟩, ⟨61956255600, -14400⟩,
    ⟨61971976800, -18000⟩, ⟨61987705200, -14400⟩, ⟨62004031200, -18000⟩, ⟨62019154800, -14400⟩,
    ⟨62035480800, -18000⟩, ⟨62051209200, -14400⟩, ⟨62066930400, -18000⟩, ⟨62082658800, -14400⟩,
    ⟨62098380000, -18000⟩, ⟨62114108400, -14400⟩, ⟨62129829600, -18000⟩, ⟨62145558000, -14400⟩,
    ⟨62161279200, -18000⟩, ⟨62177007600, -14400⟩, ⟨62193333600, -18000⟩, ⟨62209062000, -14400⟩,
    ⟨62224783200, -18000⟩, ⟨62240511600, -14400⟩, ⟨62256232800, -18000⟩, ⟨62262284400, -14400⟩,
    ⟨62287682400, -18000⟩, ⟨62297967600, -14400⟩, ⟨62319132000, -18000⟩, ⟨62334860400, -14400⟩,
    ⟨62351186400, -18000⟩, ⟨62366310000, -14400⟩, ⟨62382636000, -18000⟩, ⟨62398364400, -14400⟩,
    ⟨62414085600, -18000⟩, ⟨62429814000, -14400⟩, ⟨62445535200, -18000⟩, ⟨62461263600, -14400⟩,
    ⟨62476984800, -18000⟩, ⟨62492713200, -14400⟩, ⟨62508434400, -18000⟩, ⟨62524162800, -14400⟩,
    ⟨62540488800, -18000⟩, ⟨62555612400, -14400⟩, ⟨62571938400, -18000⟩, ⟨62587666800, -14400⟩,
    ⟨62603388000, -18000⟩, ⟨62619116400, -14400⟩, ⟨62634837600, -18000⟩, ⟨62650566000, -14400⟩,
    ⟨62666287200, -18000⟩, ⟨62680201200, -14400⟩, ⟨62697736800, -18000⟩, ⟨62711650800, -14400⟩,
    ⟨62729791200, -18000⟩, ⟨62743100400, -14400⟩, ⟨62761240800, -18000⟩, ⟨62774550000, -14400⟩,
    ⟨62792690400, -18000⟩, ⟨62806604400, -14400⟩, ⟨62824140000, -18000⟩, ⟨62838054000, -14400⟩,
    ⟨62855589600, -18000⟩, ⟨62869503600, -14400⟩, ⟨62887644000, -18000⟩, ⟨62900953200, -14400⟩,
    ⟨62919093600, -18000⟩, ⟨62932402800, -14400⟩, ⟨62950543200, -18000⟩, ⟨62964457200, -14400⟩,
    ⟨62981992800, -18000⟩, ⟨62995906800, -14400⟩, ⟨63013442400, -18000⟩, ⟨63027356400, -14400⟩,
    ⟨63044892000, -18000⟩, ⟨63058806000, -14400⟩, ⟨63076946400, -18000⟩, ⟨63090255600, -14400⟩,
    ⟨63108396000, -18000⟩, ⟨63121705200, -14400⟩, ⟨63139845600, -18000⟩, ⟨63153759600, -14400⟩,
    ⟨63171295200, -18000⟩, ⟨63185209200, -14400⟩, ⟨63202744800, -18000⟩, ⟨63216658800, -14400⟩,
    ⟨63234799200, -18000⟩, ⟨63248108400, -14400⟩, ⟨63266248800, -18000⟩, ⟨63279558000, -14400⟩,
    ⟨63297698400, -18000⟩, ⟨63309193200, -14400⟩]

def newYorkRule : YearlyRule := ⟨⟨3, .second, 25200, -14400⟩, ⟨11, .first, 21600, -18000⟩⟩

def newYork : History := newYorkRecorded.continuedBy newYorkRule 2007

def saoPaulo : History where
  initial := -11188
  changes := [
    ⟨60368382388, -10800⟩, ⟨60928639200, -7200⟩, ⟨60944234400, -10800⟩, ⟨60960222000, -7200⟩,
    ⟨60975770400, -10800⟩, ⟨61501777200, -7200⟩, ⟨61513527600, -10800⟩, ⟨61533313200, -7200⟩,
    ⟨61543764000, -10800⟩, ⟨61564849200, -7200⟩, ⟨61575386400, -10800⟩, ⟨61596471600, -7200⟩,
    ⟨61604244000, -10800⟩, ⟨61940170800, -7200⟩, ⟨61951399200, -10800⟩, ⟨61980433200, -7200⟩,
    ⟨61985613600, -10800⟩, ⟨62006698800, -7200⟩, ⟨62014474800, -10800⟩, ⟨62035642800, -7200⟩,
    ⟨62046007200, -10800⟩, ⟨62067178800, -7200⟩, ⟨62077629600, -10800⟩, ⟨62635345200, -7200⟩,
    ⟨62646832800, -10800⟩, ⟨62666190000, -7200⟩, ⟨62675863200, -10800⟩, ⟨62697726000, -7200⟩,
    ⟨62706794400, -10800⟩, ⟨62728570800, -7200⟩, ⟨62737639200, -10800⟩, ⟨62760020400, -7200⟩,
    ⟨62770298400, -10800⟩, ⟨62792074800, -7200⟩, ⟨62802352800, -10800⟩, ⟨62823524400, -7200⟩,
    ⟨62833197600, -10800⟩, ⟨62855578800, -7200⟩, ⟨62864042400, -10800⟩, ⟨62886423600, -7200⟩,
    ⟨62897306400, -10800⟩, ⟨62917873200, -7200⟩, ⟨62928756000, -10800⟩, ⟨62949322800, -7200⟩,
    ⟨62959600800, -10800⟩, ⟨62980167600, -7200⟩, ⟨62991655200, -10800⟩, ⟨63011703600, -7200⟩,
    ⟨63024314400, -10800⟩, ⟨63043671600, -7200⟩, ⟨63055159200, -10800⟩, ⟨63074516400, -7200⟩,
    ⟨63087213600, -10800⟩, ⟨63106570800, -7200⟩, ⟨63118058400, -10800⟩, ⟨63138625200, -7200⟩,
    ⟨63149508000, -10800⟩, ⟨63171889200, -7200⟩, ⟨63180957600, -10800⟩, ⟨63202129200, -7200⟩,
    ⟨63212407200, -10800⟩, ⟨63234961200, -7200⟩, ⟨63244461600, -10800⟩, ⟨63265028400, -7200⟩,
    ⟨63275911200, -10800⟩, ⟨63298292400, -7200⟩, ⟨63307965600, -10800⟩, ⟨63327927600, -7200⟩,
    ⟨63338810400, -10800⟩, ⟨63359982000, -7200⟩, ⟨63370260000, -10800⟩, ⟨63391431600, -7200⟩,
    ⟨63402314400, -10800⟩, ⟨63422881200, -7200⟩, ⟨63433764000, -10800⟩, ⟨63454330800, -7200⟩,
    ⟨63465818400, -10800⟩, ⟨63486385200, -7200⟩, ⟨63496663200, -10800⟩, ⟨63517834800, -7200⟩,
    ⟨63528112800, -10800⟩, ⟨63549284400, -7200⟩, ⟨63560167200, -10800⟩, ⟨63580734000, -7200⟩,
    ⟨63591616800, -10800⟩, ⟨63612183600, -7200⟩, ⟨63623066400, -10800⟩, ⟨63643633200, -7200⟩,
    ⟨63654516000, -10800⟩, ⟨63676897200, -7200⟩, ⟨63685965600, -10800⟩]

def lordHoweRecorded : History where
  initial := 38180
  changes := [
    ⟨59771481820, 36000⟩, ⟨62487813600, 37800⟩, ⟨62508382200, 41400⟩, ⟨62519869800, 37800⟩,
    ⟨62540436600, 41400⟩, ⟨62551319400, 37800⟩, ⟨62571886200, 41400⟩, ⟨62582769000, 37800⟩,
    ⟨62603335800, 41400⟩, ⟨62614218600, 37800⟩, ⟨62634785400, 39600⟩, ⟨62646879600, 37800⟩,
    ⟨62665630200, 39600⟩, ⟨62678329200, 37800⟩, ⟨62697684600, 39600⟩, ⟨62710383600, 37800⟩,
    ⟨62729739000, 39600⟩, ⟨62741833200, 37800⟩, ⟨62761188600, 39600⟩, ⟨62772073200, 37800⟩,
    ⟨62792638200, 39600⟩, ⟨62803522800, 37800⟩, ⟨62824087800, 39600⟩, ⟨62834972400, 37800⟩,
    ⟨62855537400, 39600⟩, ⟨62867026800, 37800⟩, ⟨62887591800, 39600⟩, ⟨62898476400, 37800⟩,
    ⟨62919041400, 39600⟩, ⟨62929926000, 37800⟩, ⟨62950491000, 39600⟩, ⟨62963794800, 37800⟩,
    ⟨62981940600, 39600⟩, ⟨62995244400, 37800⟩, ⟨63013390200, 39600⟩, ⟨63026694000, 37800⟩,
    ⟨63044839800, 39600⟩, ⟨63058143600, 37800⟩, ⟨63076894200, 39600⟩, ⟨63089593200, 37800⟩,
    ⟨63102900600, 39600⟩, ⟨63121042800, 37800⟩, ⟨63139793400, 39600⟩, ⟨63153097200, 37800⟩,
    ⟨63171243000, 39600⟩, ⟨63184546800, 37800⟩, ⟨63202692600, 39600⟩, ⟨63215996400, 37800⟩,
    ⟨63234747000, 39600⟩, ⟨63247446000, 37800⟩, ⟨63266196600, 39600⟩, ⟨63279500400, 37800⟩,
    ⟨63297646200, 39600⟩, ⟨63310345200, 37800⟩, ⟨63329095800, 39600⟩, ⟨63343004400, 37800⟩]

def lordHoweRule : YearlyRule := ⟨⟨4, .first, -32400, 37800⟩, ⟨10, .first, -30600, 39600⟩⟩

def lordHowe : History := lordHoweRecorded.continuedBy lordHoweRule 2008

def apia : History where
  initial := 45184
  changes := [
    ⟨59690172416, -41216⟩, ⟨60273718016, -41400⟩, ⟨61504486200, -39600⟩, ⟨63421095600, -36000⟩,
    ⟨63437349600, -39600⟩, ⟨63452469600, -36000⟩, ⟨63460836000, 50400⟩, ⟨63468799200, 46800⟩,
    ⟨63484524000, 50400⟩, ⟨63500853600, 46800⟩, ⟨63515973600, 50400⟩, ⟨63532303200, 46800⟩,
    ⟨63547423200, 50400⟩, ⟨63563752800, 46800⟩, ⟨63578872800, 50400⟩, ⟨63595202400, 46800⟩,
    ⟨63610322400, 50400⟩, ⟨63626652000, 46800⟩, ⟨63641772000, 50400⟩, ⟨63658101600, 46800⟩,
    ⟨63673826400, 50400⟩, ⟨63690156000, 46800⟩, ⟨63705276000, 50400⟩, ⟨63721605600, 46800⟩,
    ⟨63736725600, 50400⟩, ⟨63753055200, 46800⟩]

def tokyo : History where
  initial := 33539
  changes := [
    ⟨59547884400, 32400⟩, ⟨61451794800, 36000⟩, ⟨61463286000, 32400⟩, ⟨61480825200, 36000⟩,
    ⟨61494735600, 32400⟩, ⟨61515298800, 36000⟩, ⟨61526185200, 32400⟩, ⟨61546748400, 36000⟩,
    ⟨61557634800, 32400⟩]

def kolkata : History where
  initial := 21208
  changes := [
    ⟨58490359592, 21200⟩, ⟨58979902000, 19270⟩, ⟨60115891130, 19800⟩, ⟨61244015400, 23400⟩,
    ⟨61263538200, 19800⟩, ⟨61272959400, 23400⟩, ⟨61371451800, 19800⟩]

def kathmandu : History where
  initial := 20476
  changes := [
    ⟨60557653124, 19800⟩, ⟨62640498600, 20700⟩]

def monrovia : History where
  initial := -2588
  changes := [
    ⟨60531237788, -2670⟩, ⟨62199189870, 0⟩]

def kiritimati : History where
  initial := -37760
  changes := [
    ⟨59958181760, -38400⟩, ⟨62443219200, -36000⟩, ⟨62924464800, 50400⟩]

def trollRule : YearlyRule := ⟨⟨3, .last, 3600, 7200⟩, ⟨10, .last, 3600, 0⟩⟩

def troll : History := (constant 0).continuedBy trollRule 2005

end CivilRange.History
