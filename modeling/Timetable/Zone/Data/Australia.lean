import Timetable.Zone.Entry

/-!
Time zones of the area Australia.
-/
namespace Timetable.Zone

def entriesAustralia : List Entry := [
  ⟨"Australia/Adelaide", 33260, [32400, 34200, 37800],
    [
      "Tp5eiK0Tx4WDm1USJic82USl3O81VBLBe82VBnso81VCjrs82VDfqw81VEe7e82VFXp281W3S4282W43IC81",
      "W5K2A82W5zZ-81W7C0I82W7rY681W93-Q82W9jWE81WAxyY82WBdo081WCsEK82WDVm881WEkCS82WFNkG81",
      "WGcAa82WHFiO81WIU8i82WJ7gW81WKM6q82WK_ee81WME4y82WMvwQ81WO8Mk82WOnuY81WQ0Ks82WQfsg81",
      "WRuI-82WSXqo81WTmH682WUUQE81WVbxa82WWMOM81WXWDM82WYGg881WZQV882Wa8eG81WbITG82Wc0cO81",
      "WdARO82WdpzC81Wf2PW82WfosI81WgwNe82WhcD681WiqfQ82WjYoY81WkidY82WlT4K81Wmabg82WnNM681",
      "WoSZo82WpFKE81WqKXw82Wr7IM81WsCW282Ws_GU81Wu6nq82WutEc81Wv-ly82WwlCk81Wxsk482WyfUW81",
      "WzkiC82W-XSe81W_cgK82X0PQm81X1Wy682X2HOu81X3OwE82X4Bgg81X5GuM82X61L881X78sU82X7zwa81"],
    some ⟨34200, 37800, ⟨10, 1, 0, 7200⟩, ⟨4, 1, 0, 10800⟩⟩⟩,
  ⟨"Australia/Brisbane", 36728, [36000, 39600],
    [
      "ToxPy80USJiA01USl2y00VBLBC01VBnsM00VCjrQ01VDfqU00VEe7C01VFXoc00W3S3c01W43Hm00WbISq01",
      "Wbx-e00WdAQy01Wdpym00Wf2P401Wfhwu00"],
    none⟩,
  ⟨"Australia/Broken_Hill", 33948, [36000, 32400, 34200, 37800],
    [
      "Tp5eXa0Ts1ANW1Tx4WDm2USJic83USl3O82VBLBe83VBnso82VCjrs83VDfqw82VEe7e83VFXp282W3S4283",
      "W43IC82W5K2A83W5zZ-82W7C0I83W7rY682W93-Q83W9jWE82WAxyY83WBdo082WCsEK83WDVm882WEkCS83",
      "WFNkG82WGcAa83WHFiO82WIU8i83WJ7gW82WKM6q83WK_ee82WME4y83WN39282WO8Mk83WOnuY82WQ0Ks83",
      "WQfsg82WRuI-83WSXqo82WTmH683WUUQE82WVbxa83WWMOM82WXWDM83WYGg882WZQV883Wa8eG82WbITG83",
      "Wbx_482WdARO83WdpzC82Wf2PW83WfhxK82WgwNe83WhcD682WiqfQ83WjUBE82WkidY83WlM9M82Wmabg83",
      "WnNM682WoSZo83WpFKE82WqKXw83Wr7IM82WsCW283Ws_GU82Wu6nq83WutEc82Wv-ly83WwlCk82Wxsk483",
      "WyfUW82WzkiC83W-XSe82W_cgK83X0PQm82X1Wy683X2HOu82X3OwE83X4Bgg82X5GuM83X61L882X78sU83",
      "X7zwa82"],
    some ⟨34200, 37800, ⟨10, 1, 0, 7200⟩, ⟨4, 1, 0, 10800⟩⟩⟩,
  ⟨"Australia/Darwin", 31400, [32400, 34200, 37800],
    ["Tp5f9O0Tx4WDm1USJic82USl3O81VBLBe82VBnso81VCjrs82VDfqw81VEe7e82VFXp281"],
    none⟩,
  ⟨"Australia/Eucla", 30928, [31500, 35100],
    [
      "TqfWgm0USJjGK1USl42K0VBLCIK1VBntSK0VCjsWK1VDfraK0W93_4K1W9jWuK0WQ0LWK1WQftKK0Wf9L8K1",
      "Wfhx-K0X5SRIK1X61LoK0X78t8K1X7xdaK0X90rGK1X9pbiK0"],
    none⟩,
  ⟨"Australia/Hobart", 35356, [36000, 39600],
    [
      "TqBW3a0URrNY01USl2y00UTsaI01UUW6600UVkYQ01UWO4E00VBLBC01VBnsM00VCjrQ01VDfqU00VEe7C01",
      "VFXoc00Vxmeq01Vyidu00Vznra01V-Th200V_fpi01W0LfA00W1Xnq01W2Fwy00W3S3c01W43Hm00W5K1k01",
      "W5zZY00W7B_s01W7rXg00W93z-01W9jVo00WAxy601WBdna00WCsDu01WDVli00WEkC001WFNjq00WGcA801",
      "WHFhy00WIU8G01WJ7g400WKM6O01WK_eC00WME4W01WN0qy00WO8MI01WOup400WQ0KQ01WQfsE00WRuIY01",
      "WSXqM00WTmGg01WUPoU00WVbx801WWMNw00WXWCw01WYGfi00WZQUi01Wa8dq00WbISq01Wc0by00WdAQy01",
      "WdzBO00WexU601Wfr9W00WgpSE01Whj7e00WihQM01Wjb5m00WkZOU01WlT3u00WmRMc01WnNLg00WoLeO01",
      "WpFJo00WqDcW01Wr7Hw00Ws5ae01Ws_G200WtzYm01WutEA00Wvf-c01WwlCI00Wxlog01WyfU400Wzdmo01",
      "W-XSC00W_Vkw01X0PQK00X1Nj201X2HOS00X3FhA01X4BgE00X57fI01X61Ki00X71x401"],
    some ⟨36000, 39600, ⟨10, 1, 0, 7200⟩, ⟨4, 1, 0, 10800⟩⟩⟩,
  ⟨"Australia/Lindeman", 35756, [36000, 39600],
    [
      "ToxQBK0USJiA01USl2y00VBLBC01VBnsM00VCjrQ01VDfqU00VEe7C01VFXoc00W3S3c01W43Hm00WbISq01",
      "Wbx-e00WdAQy01Wdpym00Wf2P401Wfhwu00WgwNC01WhcCg00Wiqe-01WjUAo00"],
    none⟩,
  ⟨"Australia/Lord_Howe", 38180, [36000, 37800, 41400, 39600],
    [
      "Tp5dVS0WK_cRW1WME43u2WMvufe1WO8Lru2WOnsne1WQ0Jzu2WQfqve1WRuI5u2WSXp1e1WTmGDu3WUUOvm1",
      "WVbwhu3WWMN1m1WXWCTu3WYGepm1WZQUFu3Wa8cxm1WbISNu3Wbxzlm1WdAQVu3Wdpxtm1Wf2Odu3Wfhv_m1",
      "WgwMlu3WhcBnm1WiqeXu3WjU9vm1Wkicfu3WlM81m1Wmaanu3WnNKnm1WoSYvu3WpFIvm1WqKX1u3Wr7H1m1",
      "WsCV9u3Ws_F9m1Wu6mxu3WutDHm1Wvf-9u3WwlBPm1WxsjBu3WyfTBm1WzkhJu3W-XRJm1W_cfRu3X0PPRm1",
      "X1WxDu3X2HNZm1X3OvLu3X4BfLm1X5GtTu3X61Jpm1X78rbu3X7zvFm1"],
    some ⟨37800, 39600, ⟨10, 1, 0, 7200⟩, ⟨4, 1, 0, 7200⟩⟩⟩,
  ⟨"Australia/Melbourne", 34792, [36000, 39600],
    [
      "Tp5eKO0USJiA01USl2y00VBLBC01VBnsM00VCjrQ01VDfqU00VEe7C01VFXoc00W3S3c01W43Hm00W5K1k01",
      "W5zZY00W7B_s01W7rXg00W93z-01W9jVo00WAxy601WBdna00WCsDu01WDVli00WEkC001WFNjq00WGcA801",
      "WHFhy00WIU8G01WJ7g400WKM6O01WK_eC00WME4W01WMvv-00WO8MI01WOnu600WQ0KQ01WQfsE00WRuIY01",
      "WSXqM00WTmGg01WUUPo00WVbx801WWMNw00WXTvG01WYGfi00WZQUi01Wa8dq00WbISq01Wc0by00WdAQy01",
      "Wdpym00Wf2P401Wfhwu00WgwNC01WhcCg00Wiqe-01WjUAo00Wkid601WlT3u00WmabE01WnNLg00WoSZM01",
      "WpFJo00WqKXU01Wr7Hw00WsCVc01Ws_G200Wu6nO01WutEA00Wvf-c01WwlCI00Wxsje01WyfU400Wzkhm01",
      "W-XSC00W_cfu01X0PQK00X1Wxg01X2HOS00X3Ovo01X4BgE00X5Gtw01X61Ki00X78s201X7zw800"],
    some ⟨36000, 39600, ⟨10, 1, 0, 7200⟩, ⟨4, 1, 0, 10800⟩⟩⟩,
  ⟨"Australia/Perth", 27804, [28800, 32400],
    [
      "TqfXRa0USJjwW1USl4iW0VBLCyW1VBnu6W0VCjtAW1VDfsEW0W93_kW1W9jXYW0WQ0MAW1WQft-W0Wf9LoW1",
      "WfhyeW0X5SRyW1X61MSW0X78toW1X7xeEW0X90rwW1X9pcMW0"],
    none⟩,
  ⟨"Australia/Sydney", 36292, [36000, 39600],
    [
      "Tp5dyy0USJiA01USl2y00VBLBC01VBnsM00VCjrQ01VDfqU00VEe7C01VFXoc00W3S3c01W43Hm00W5K1k01",
      "W5zZY00W7B_s01W7rXg00W93z-01W9jVo00WAxy601WBdna00WCsDu01WDVli00WEkC001WFNjq00WGcA801",
      "WHFhy00WIU8G01WJ7g400WKM6O01WK_eC00WME4W01WN38c00WO8MI01WOnu600WQ0KQ01WQfsE00WRuIY01",
      "WSXqM00WTmGg01WUUPo00WVbx801WWMNw00WXWCw01WYGfi00WZQUi01Wa8dq00WbISq01Wbx-e00WdAQy01",
      "Wdpym00Wf2P401Wfhwu00WgwNC01WhcCg00Wiqe-01WjUAo00Wkid601WlM8w00WmabE01WnNLg00WoSZM01",
      "WpFJo00WqKXU01Wr7Hw00WsCVc01Ws_G200Wu6nO01WutEA00Wvf-c01WwlCI00Wxsje01WyfU400Wzkhm01",
      "W-XSC00W_cfu01X0PQK00X1Wxg01X2HOS00X3Ovo01X4BgE00X5Gtw01X61Ki00X78s201X7zw800"],
    some ⟨36000, 39600, ⟨10, 1, 0, 7200⟩, ⟨4, 1, 0, 10800⟩⟩⟩]

end Timetable.Zone
