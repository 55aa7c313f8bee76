import Timetable.Zone.Entry

/-!
Time zones of the area Antarctica.
-/
namespace Timetable.Zone

def entriesAntarctica : List Entry := [
  ⟨"Antarctica/Casey", 0, [28800, 39600],
    [
      "V-7io00XAsWOW1XBZyhm0XEgPmW1XFGysG0XO2Zk01XQf0yG0XRkHH01XSZHs00XTbaKm1XUOyK00XVUA0y1",
      "XWJBTG0XXM88y1XYB9bG0XZE6Gy1Xa2B400"],
    none⟩,
  ⟨"Antarctica/Davis", 0, [25200, 0, 18000],
    ["Vdd4000VsHzyG1V-Hwi00XAsXGm2XBb_f00XEgQem2XFG_V00"],
    none⟩,
  ⟨"Antarctica/Macquarie", 0, [36000, 39600, 0],
    [
      "Ty1HO00URrNY01USl2y00UWXxHW2VN36W00Vxmeq01Vyidu00Vznra01V-Th200V_fpi01W0LfA00W1Xnq01",
      "W2Fwy00W3S3c01W43Hm00W5K1k01W5zZY00W7B_s01W7rXg00W93z-01W9jVo00WAxy601WBdna00WCsDu01",
      "WDVli00WEkC001WFNjq00WGcA801WHFhy00WIU8G01WJ7g400WKM6O01WK_eC00WME4W01WN0qy00WO8MI01",
      "WOup400WQ0KQ01WQfsE00WRuIY01WSXqM00WTmGg01WUPoU00WVbx801WWMNw00WXWCw01WYGfi00WZQUi01",
      "Wa8dq00WbISq01Wc0by00WdAQy01WdzBO00WexU601Wfr9W00WgpSE01Whj7e00WihQM01Wjb5m00WkZOU01",
      "WlT3u00WmRMc01WnNLg00WoLeO01WpFJo00WqDcW01Wr7Hw00Ws5ae01Ws_G200WtzYm01WutEA00Wvf-c01",
      "WwlCI00Wxlog01WyfU400Wzdmo01W-XSC00W_Vkw01X0PQK00X1Nj201X2HOS00X3FhA01X4BgE00X57fI01",
      "X61Ki00X71x401X7zw800X8vvC01X9ruG00XAntK01XDbqW00"],
    some ⟨36000, 39600, ⟨10, 1, 0, 7200⟩, ⟨4, 1, 0, 10800⟩⟩⟩,
  ⟨"Antarctica/Mawson", 0, [21600, 18000],
    ["VY83A00XAsY901"],
    none⟩,
  ⟨"Antarctica/Palmer", 0, [-10800, -14400, -7200],
    [
      "VscAq00Vsvf-m1Vu4qF00VunzCm1Vvz7T00VwqpQm1VxmpN00Vyl5Cm1Vzh5900V-d3Km1V_Z3H00W7eqgm2",
      "W896-W0WNCBom1WO1bt00WOqLQm1WPvZ_00WQiJYm1WRprn00WSaHgm1WThpv00WUSFom1WVZo100WWVmCm1",
      "WXRm900WYEVim1WZJkH00Wa6Tqm1WbE0300Wb-Rym1WcylZ00WdsQ4m1WezyJ00Wfmhsm1WgrwR00Whef-m1",
      "WijuZ00WjWe6m1Wkbsh00WlOcEm1WmW8T00WnGaMm1WoO6b00WpFTSm1WqG4j00Wr2qGm1Ws3RX00Wt1jMm1",
      "Wu00z00WuomWm1WvwIl00Wwgkem1WxoGt00WyYimm1WzgE_00W-Qgum1W_YD700X0Kygm1X1QBF00X2Cwom1",
      "X3I9N00X44uwm1X5CR900X5yt2m1X74PH00X7xm8m1X8yNP00X9l6ym1XAqLX00XBk02m1XCiJf00XDnWSm1",
      "XEK8B00XFdAwm1XGGjd00XHV92m1XIA_P00XJN7Am1XK2zX00XND-Om1XNh-p00"],
    none⟩,
  ⟨"Antarctica/Rothera", 0, [-10800],
    ["WD0Yq00"],
    none⟩,
  ⟨"Antarctica/Troll", 0, [7200],
    ["X2HWMG0"],
    some ⟨0, 7200, ⟨3, 5, 0, 3600⟩, ⟨10, 5, 0, 10800⟩⟩⟩,
  ⟨"Antarctica/Vostok", 0, [25200, 0, 18000],
    ["VfM8c00WjJJaG1WkjOK00XbVqKm2"],
    none⟩]

end Timetable.Zone
