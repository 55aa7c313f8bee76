import Timetable.Zone.Entry

/-!
Time zones of the area Europe.
-/
namespace Timetable.Zone

def entriesEurope : List Entry := [
  ⟨"Europe/Andorra", 364, [0, 3600, 7200],
    [
      "T-DhEK0VKGTi01WShAuG2WTd9yG1WUZ90G2WVV84G1WWR78G2WXN6CG1WYJ5GG2WZF4KG1WaB3OG2Wb72SG1",
      "Wc31WG2Wd1KEG1WdzJIG2WevIMG1WfrHQG2WgnGUG1WhjFYG2WifEcG1WjbDgG2WkXCkG1WlTBoG2WmPAsG1",
      "WnNTaG2"],
    some ⟨3600, 7200, ⟨3, 5, 0, 7200⟩, ⟨10, 5, 0, 10800⟩⟩⟩,
  ⟨"Europe/Astrakhan", 11532, [10800, 14400, 18000],
    [
      "Ug64Lq0Urf0jG1WL9vd02WM6Cum1WN2Cr02WN-W6m1WOwW302WPspKm1WQp8N02WRl9BW1WSh8FW2WTd7JW1",
      "WUZ6NW2WVV5RW1WWR4VW2WXN3ZW1WYJ2dW2WZF1hW1Wb70hm0Wc2_lm1Wd1ITm0WdzHXm1WgnEjm0WhjDnm1",
      "WifCrm0WjbBvm1WkXAzm0WlTA1m1WmP95m0WnNRpm1WoSfVm0WpFPxm1WqKddm0Wr7O3m1WsCblm0Ws_MBm1",
      "Wu6tXm0WutKJm1Wv-rfm0WwlIRm1Wxspnm0WyfaDm1Wzknvm0W-XYLm1W_cm1m0X0PWTm1X1X1pm0X2HUbm1",
      "X3O_xm0X49Sjm1X5G-3m0X61Qrm1X78yBm0X7xidm1X90wJm0X9pglm1XAuuRm0XBhetm1XCpADm0XDZc_m1",
      "XKJ1rW0XMznHm1"],
    none⟩,
  ⟨"Europe/Athens", 5692, [7200, 10800, 3600],
    [
      "URW2600UvVEdW1Uvng_G0V9ycFW1VA4AXG0VCvqiG2VDgapm0VEeXZW2VFasbm0VV4vvW1VVjmfG0W9x5vW1",
      "WB6FHW0WBpQu01WClPy00WDf5M01WEZ5s00WFX3U01WGQlmG0WHP7lm1WIKghm0WJHe9W1WKCy9G0WL8-kG1",
      "WM4zoG0WN0ysG1WNyxwG0WOuw-G1WPqw2G0WQmv6G1WRlBqG0WShAuG1WTd9yG0WUZ90G1WVV84G0WWR78G1",
      "WXN6CG0WYJ5GG1WZF4KG0WaB3OG1Wb72SG0Wc31WG1Wd1KEG0WdzJIG1WevIMG0WfrHQG1WgnGUG0WhjFYG1",
      "WifEcG0WjbDgG1WkXCkG0WlTBoG1WmPAsG0WnNTaG1"],
    some ⟨7200, 10800, ⟨3, 5, 0, 10800⟩, ⟨10, 5, 0, 14400⟩⟩⟩,
  ⟨"Europe/Belgrade", 4920, [3600, 7200],
    [
      "TUFF180VA0ZNW1VCvqiG0VDgHUG1VEeaCG0VFaZGG1VGWYKG0VHeOmG1VIJa2G0WOuw-G1WPqw2G0WQmv6G1",
      "WRlBqG0WShAuG1WTd9yG0WUZ90G1WVV84G0WWR78G1WXN6CG0WYJ5GG1WZF4KG0WaB3OG1Wb72SG0Wc31WG1",
      "Wd1KEG0WdzJIG1WevIMG0WfrHQG1WgnGUG0WhjFYG1WifEcG0WjbDgG1WkXCkG0WlTBoG1WmPAsG0WnNTaG1"],
    some ⟨3600, 7200, ⟨3, 5, 0, 7200⟩, ⟨10, 5, 0, 10800⟩⟩⟩,
  ⟨"Europe/Berlin", 3208, [3600, 7200, 10800],
    [
      "Tlec7u0UR31TW1URrThm0USsQwG1UTfBMG0UUkP2G1UVX9UG0V82N6G1VCvqiG0VDgHUG1VEeaCG0VFaZGG1",
      "VGWYKG0VHSXOG1VHjfO02VIMBw01VIeKyG0VJOnkG1VKIoEG0VLET4W1VLP-UG2VLg7C01VMARGG0VNB1eG1",
      "VO2POG0VP0i6G1VPwNWG0WJJKGG1WKC_gG0WL8-kG1WM4zoG0WN0ysG1WNyxwG0WOuw-G1WPqw2G0WQmv6G1",
      "WRlBqG0WShAuG1WTd9yG0WUZ90G1WVV84G0WWR78G1WXN6CG0WYJ5GG1WZF4KG0WaB3OG1Wb72SG0Wc31WG1",
      "Wd1KEG0WdzJIG1WevIMG0WfrHQG1WgnGUG0WhjFYG1WifEcG0WjbDgG1WkXCkG0WlTBoG1WmPAsG0WnNTaG1"],
    some ⟨3600, 7200, ⟨3, 5, 0, 7200⟩, ⟨10, 5, 0, 10800⟩⟩⟩,
  ⟨"Europe/Brussels", 1050, [0, 3600, 7200],
    [
      "TjwCW00UOH4c01UR32Lm2URrThm1USsQwG2UTfBMG1UUkP2G2UVX9UG1UVplWm0UWOANm1UXVhjm0UYBXBm1",
      "UZUapm0UaDO7m1UbNYDm0Uc9JNm1Ud9vlm0UeAW7m1Uf1ttm0UfxZHm1Ugvr_m0Uhrr3m1Uinq7m0UjoQVm1",
      "UkfoFm0Ule4zm1UmXmNm0UnYMlm1UoS4oW0UpShAW1UqK2wW0UrILeW1UsC12W0UtCdQW1Uu3_AW0Uu_-EW1",
      "UvxzIW0UwreiW1UxsF4W0UyoE8W1UzkDCW0U-ducW1U_cBKW0V0cniW1V1U9SW0V2Q8WW1V3M7aW0V4Fo-W1",
      "V5E5iW0V6Ei4W1V7MDQW0V7sWcW1V8IXaW2VCvqiG1VDgHUG2VEeaCG1VFaZGG2VGRbwG1VHSXOG2VIJa2G1",
      "VJaK0G2VKIoEG1WDf6EG2WEYneG1WFX4MG2WGT3QG1WHP2UG2WIL1YG1WJJKGG2WKC_gG1WL8-kG2WM4zoG1",
      "WN0ysG2WNyxwG1WOuw-G2WPqw2G1WQmv6G2WRlBqG1WShAuG2WTd9yG1WUZ90G2WVV84G1WWR78G2WXN6CG1",
      "WYJ5GG2WZF4KG1WaB3OG2Wb72SG1Wc31WG2Wd1KEG1WdzJIG2WevIMG1WfrHQG2WgnGUG1WhjFYG2WifEcG1",
      "WjbDgG2WkXCkG1WlTBoG2WmPAsG1WnNTaG2"],
    some ⟨3600, 7200, ⟨3, 5, 0, 7200⟩, ⟨10, 5, 0, 10800⟩⟩⟩,
  ⟨"Europe/Bucharest", 6264, [7200, 10800],
    [
      "UtiD880UvFlDW1UvxvnW0UwturW1UxptvW0UyoAdW1Uzk9hW0U-g8lW1U_c7pW0V0Y6tW1V1U5xW0V2Q4_W1",
      "V3M43W0V4I37W1V5E2BW0V6A1FW1V760JW0WHhT5W1WIK-1G0WJJGlG1WKCz1W0WL8zs01WM4yw00WN0x-01",
      "WNyx200WOuw601WPqvA00WQmuE01WRlAy00WShA001WTd9400WUZ8801WVV7C00WWR6G01WXN5K00WYJ4O01",
      "WZF3S00WaB2W01Wb71a00Wc30e01Wd1JM00WdzGfW1WevFjW0WfrEnW1WgnDrW0WhjCvW1WifBzW0WjbB1W1",
      "WkX9DG0WlT99W1WmP7LG0WnNQxW1WoSdlG0WpFRiG1"],
    some ⟨7200, 10800, ⟨3, 5, 0, 10800⟩, ⟨10, 5, 0, 14400⟩⟩⟩,
  ⟨"Europe/Budapest", 4580, [3600, 7200],
    [
      "Th5v6S0UR31TW1URrThm0USsQwG1UTfBMG0UUkP2G1UVX9UG0UWciGG1UXP7cG0UYS1eG1UZJPOG0V9yxLW1",
      "VCvqiG0VDgHUG1VEeaCG0VFaZGG1VGWYKG0VHcNZW1VIYibm0VJKAQG1VKInM00VLESCG1VMARGG0VN6QKG1",
      "VO2POG0VP0i6G1VPwNWG0VYegZm1VZKV9W0VaWgSG1VbCVwG0VcTFuG1Vd4U2G0VeLE0G1VeySAG0WJJIVm1",
      "WKCzvm0WL8yzm1WM4y1m0WN0x5m1WNyw9m0WOuvDm1WPquHm0WQmv6G1WRlBqG0WShAuG1WTd9yG0WUZ90G1",
      "WVV84G0WWR78G1WXN6CG0WYJ5GG1WZF4KG0WaB3OG1Wb72SG0Wc31WG1Wd1KEG0WdzJIG1WevIMG0WfrHQG1",
      "WgnGUG0WhjFYG1WifEcG0WjbDgG1WkXCkG0WlTBoG1WmPAsG0WnNTaG1"],
    some ⟨3600, 7200, ⟨3, 5, 0, 7200⟩, ⟨10, 5, 0, 10800⟩⟩⟩,
  ⟨"Europe/Chisinau", 6920, [6900, 6264, 7200, 10800, 3600, 14400],
    [
      "TMjiZu0UUQvyC1UtiD882UvFlDW3UvxvnW2UwturW3UxptvW2UyoAdW3Uzk9hW2U-g8lW3U_c7pW2V0Y6tW3",
      "V1U5xW2V2Q4_W3V3M43W2V4I37W3V5E2BW2V6A1FW3V760JW2V8l9DW3VATtrG2VCvqiG4VDgHUG2VEeaCG4",
      "VFaZGG2VGJf1W3WL9wVG5WM6Dn03WN2DjG5WN-W_03WOwWxG5WPsqD03WQp9FG5WRlA3m3WSh97m5WTd8Bm3",
      "WUZ7Fm5WVV6Jm3WWR5Nm5WXN4Rm3WYJ3Vm5WZF2Zm3WaB1dm5Wb70hm3Wc2_lm5WcGqpW3Wd1JM02WdzIQ03",
      "WevHU02WfrEnW3WgnCzG2WhjCvW3WifB5G2WjbB1W3WkX9DG2WlT99W3WmP7LG2WnNQxW3WoSdlG2WpFQq03",
      "WqKeW02Wr7Oy03WsCce02Ws_N403Wu6uQ02WutLC03Wv-sY02WwlJK03Wxsqg02Wyfb603Wzkoo02W-XZE03",
      "W_cmw02X0PXM03X1X2i02X2HVU03X3P0q02X49Tc03X5G-y02X61Rk03X78z402X7xjW03X90xC02X9phe03",
      "XAuvK02XBhfm03XCpB602XDZdu03XEh9E02XFRc003XGZ7M02XHLto03XIR5U02XJDrw03XKJ3c02XL5q203",
      "XMB1k02XMzoA03XO5JW02XOrmI03XPzHe02XQjkQ03XRrFm02XSe0C03XTjDu02XUV-K03XVbC002XWNyS03",
      "XXVTo02XYFxSG3"],
    some ⟨7200, 10800, ⟨3, 5, 0, 10800⟩, ⟨10, 5, 0, 14400⟩⟩⟩,
  ⟨"Europe/Dublin", -1521, [2079, 0, 3600],
    [
      "UR9hEH0URrWiH1USpp2W2UTfCEW1UUd9sW2UVbngW1UWXReW2UXTloW1UYPPmW2UZUyYW1UaJhYW2UbF_iW1",
      "Uc9M0W2Ud9yOW1UeAYmW2Uew_YW1Ug0DEW2UgrHKW1UhwV0W2UinsmW1UjoT8W2UkfquW1Ule7cW2UmXp0W1",
      "Unaj2W2UoS4oW1UpShAW2UqK2wW1UrILeW2UsC12W1UtCdQW2Uu3_AW1Uv4bYW2UvxzIW1UwwG0W2UxsF4W1",
      "UysrSW2UzkDCW1U-iVwW2U_cBKW1V0cniW2V1U9SW1V2UlqW2V3M7aW1V4KQIW2V5E5iW1V6Ei4W2V7MDQW1",
      "V7sWcW2VKIU0W1VL7Y6W2VMJgmW1VNB2WW2VOBeuW1VO-PKW2VQ3d0W1VQw-mW2VRvHUW1VSoyuW2VTnFcW1",
      "VUjEgW2VVhXOW1VWbCoW2VXSaYW1VYQtGW2VZKYgW1VaL92W2VbCWoW1VcFQqW2Vd6oaW1Ve55IW2Ve-miW1",
      "Vf_N4W2VgskqW1VhtLCW2VikiyW1Vji_gW2Vkch4W1VlWMUW2VmdtqW1VnOKcW2VoVryW1VpIcOW2VqNq4W1",
      "Vr8GsW2VsFoCW1Vt0E-W2Vu7mKW1VuuD6W2Vv_kSW1VwmBEW2Vxw0EW1VyUwkW2W3SCOW1W4ALWW2W5KAWW1",
      "W62JeW2W7C8eW1W7wHmW2W946mW1W9oFuW2WAy4uW1WBiXgW2WCq30W1WDaVoW2WEi18W1WFSTwW2WGcIwW1",
      "WHKS2W2WIUH2W1WJCQAW2WKMFAW1WL8-kG2WMECQG1WN0ysG2WO6AYG1WOuw-G2WP-8gG1WQmv6G2WRuQSG1",
      "WShAuG2WTmOaG1WUZ90G2WVeMiG1WWR78G2WXWKqG1WYJ5GG2WZOIyG1WaB3OG2WbIakG1Wc31WG2WdAYsG1",
      "WdzJIG2Wf2W-G1WfrHQG2WgwV6G1WhjFYG2WioTEG1WjbDgG2WkgRMG1WlTBoG2WmYPUG1WnNTaG2"],
    some ⟨0, 3600, ⟨3, 5, 0, 3600⟩, ⟨10, 5, 0, 7200⟩⟩⟩,
  ⟨"Europe/Gibraltar", -1284, [0, 3600, 7200],
    [
      "TNqGe40UR9gsW1URrWKW0USpp2W1UTfCEW0UUd9sW1UVbngW0UWXReW1UXTloW0UYPPmW1UZUyYW0UaJhYW1",
      "UbF_iW0Uc9M0W1Ud9yOW0UeAYmW1Uew_YW0Ug0DEW1UgrHKW0UhwV0W1UinsmW0UjoT8W1UkfquW0Ule7cW1",
      "UmXp0W0Unaj2W1UoS4oW0UpShAW1UqK2wW0UrILeW1UsC12W0UtCdQW1Uu3_AW0Uv4bYW1UvxzIW0UwwG0W1",
      "UxsF4W0UysrSW1UzkDCW0U-iVwW1U_cBKW0V0cniW1V1U9SW0V2UlqW1V3M7aW0V4KQIW1V5E5iW0V6Ei4W1",
      "V7MDQW0V7sWcW1VA5YQG2VAbrcG1VBqHwG2VCTpkG1VDiG2G2VEO5WG1VFaEAG2VGRbwG1VHSXOG2VH-p8G1",
      "VIQVuW0VJOocW1VKIU0W0VL7Y6W1VLGlsG2VLt-0G1VMJgmW0VM_WEW1VOBeuW0VO-PKW1VQ3d0W0VQw-mW1",
      "VRvHUW0VSoyuW1VTnFcW0VUjEgW1VVhXOW0VWbCoW1VXSaYW0VYQtGW1VZKYgW0VaL92W1VbCWoW0VcFQqW1",
      "Vd6oaW0Ve55IW1WN0ysG2WNyxwG1WOuw-G2WPqw2G1WQmv6G2WRlBqG1WShAuG2WTd9yG1WUZ90G2WVV84G1",
      "WWR78G2WXN6CG1WYJ5GG2WZF4KG1WaB3OG2Wb72SG1Wc31WG2Wd1KEG1WdzJIG2WevIMG1WfrHQG2WgnGUG1",
      "WhjFYG2WifEcG1WjbDgG2WkXCkG1WlTBoG2WmPAsG1WnNTaG2"],
    some ⟨3600, 7200, ⟨3, 5, 0, 7200⟩, ⟨10, 5, 0, 10800⟩⟩⟩,
  ⟨"Europe/Helsinki", 5989, [7200, 10800],
    [
      "UaSsyR0VBpb5W1VCmELW0WL8zs01WM4yw00WN0x-01WNyx200WOuw-G1WPqw2G0WQmv6G1WRlBqG0WShAuG1",
      "WTd9yG0WUZ90G1WVV84G0WWR78G1WXN6CG0WYJ5GG1WZF4KG0WaB3OG1Wb72SG0Wc31WG1Wd1KEG0WdzJIG1",
      "WevIMG0WfrHQG1WgnGUG0WhjFYG1WifEcG0WjbDgG1WkXCkG0WlTBoG1WmPAsG0WnNTaG1"],
    some ⟨7200, 10800, ⟨3, 5, 0, 10800⟩, ⟨10, 5, 0, 14400⟩⟩⟩,
  ⟨"Europe/Istanbul", 6952, [7016, 7200, 10800, 14400],
    [
      "TMjiZO0UGY_MO1UR31TW2URrRxG1UYPMFW2UZUu9G1UaJe1W2UbFxJG1Uc9IVW2Ud9t_G1UgA2XW2UguVtG1",
      "Uh-OdW2Uimp5G1V8WJ_W2V90HDG1V9IlLW2VApe1G1VBowvW2VIQmbG1VJeZbW2VKGm9G1VLJ0tW2VMANlG1",
      "VNA-_W2VO2LtG1VP0fTW2VPwJ_G1VQwxFW2VRqbnG1VSrD1W2VTiZvG1VnzBbW2VqOkzG1VrQ0PW2Vs7pZG1",
      "W6RfDm2W7EPfm1W7-tK02W96Nnm1W9qCi02WA-Lvm1WBiVw02WCsK1m1WDf5M02WEfgrm1WFX3U02WPYR1m3",
      "WPtB3W2WRvj3m1WSnk_m2WTcp5m1WUZ7Fm2WVV6Jm1WWR5Nm2WXN4Rm1WYJ3Vm2WZF2Zm1WaB1dm2Wb70hm1",
      "Wc2_lm2Wd1ITm1WdzHXm2WevGbm1WfrFfm2WgnEjm1WhjDnm2WifCrm1WjYuFm2WkXAzm1WlTA1m2WmP95m1",
      "WnNRpm2WoSfVm1WpFPxm2WqKddm1Wr7O3m2WsCblm1Ws_MBm2Wu6tXm1WutKJm2Wv-rfm1WwlIRm2Wxspnm1",
      "WyfaDm2Wzknvm1W-XYLm2W_cm1m1X0PWTm2X1X1pm1X2HUbm2X3O_xm1X49Sjm2X5G-3m1X61ScG2X78zyG1",
      "X7xkOG2X90y4G1X9piWG2XAuwCG1XBhgeG2XCpB-G1XDZzsG2XEhA6G1XFRcuG2XGZ8EG1XHLugG2XIR6MG1",
      "XJEBuG2XKJ4UG1XL5qwG2XMFfwG1XMzp2G2"],
    none⟩,
  ⟨"Europe/Kaliningrad", 4920, [3600, 7200, 10800, 14400],
    [
      "Tlebj80UR31TW1URrThm0USsQwG1UTfBMG0UUkP2G1UVX9UG0V82N6G1VCvqiG0VDgHUG1VEeaCG0VFaZGG1",
      "VGWYKG0VHSXOG1VHbOHW2VIYgrG1VJMRRW2WL9wVG3WM6Dn02WN2DjG3WN-W_02WOwWxG3WPsqD02WQp9FG3",
      "WRlA3m2WSh97m3WTd8Bm2WUZ7Fm3WVV6Jm2WWR5Nm3WXN4Rm2WYJ3Vm3WZF2Zm2Wb71a01Wc30e02Wd1JM01",
      "WdzIQ02WevHU01WfrGY02WgnFc01WhjEg02WifDk01WjbCo02WkXBs01WlTAw02WmP9-01WnNSi02WoSgO01",
      "WpFQq02WqKeW01Wr7Oy02WsCce01Ws_N402Wu6uQ01WutLC02Wv-sY01WwlJK02Wxsqg01Wyfb602Wzkoo01",
      "W-XZE02W_cmw01X0PXM02X1X2i01X2HVU02X3P0q01X49Tc02X5G-y01X61Rk02X78z401X7xjW02X90xC01",
      "X9phe02XAuvK01XBhfm02XCpB601XDZdu02XKJ2jm1"],
    none⟩,
  ⟨"Europe/Kirov", 11928, [10800, 14400, 18000],
    [
      "UX03c00Urf0jG1WL9vd02WM6Cum1WN2Cr02WN-W6m1WOwW302WPspKm1WQp8N02WRl9BW1WSh8FW2WTd7JW1",
      "WUZ6NW2WVV5RW1WWR4VW2WXN3ZW1WYJ2dW2WZF1hW1Wb70hm0Wc2_lm1Wd1ITm0WdzHXm1WgnEjm0WhjDnm1",
      "WifCrm0WjbBvm1WkXAzm0WlTA1m1WmP95m0WnNRpm1WoSfVm0WpFPxm1WqKddm0Wr7O3m1WsCblm0Ws_MBm1",
      "Wu6tXm0WutKJm1Wv-rfm0WwlIRm1Wxspnm0WyfaDm1Wzknvm0W-XYLm1W_cm1m0X0PWTm1X1X1pm0X2HUbm1",
      "X3O_xm0X49Sjm1X5G-3m0X61Qrm1X78yBm0X7xidm1X90wJm0X9pglm1XAuuRm0XBhetm1XCpADm0XDZc_m1",
      "XKJ1rW0"],
    none⟩,
  ⟨"Europe/Kyiv", 7324, [7200, 10800, 3600, 14400],
    [
      "Ug6QTa0Urf1bW1VApIxG0VCvqiG2VDgHUG0VEeaCG2VEpQXm1WL9wVG3WM6Dn01WN2DjG3WN-W_01WOwWxG3",
      "WPsqD01WQp9FG3WRlA3m1WSh97m3WTd8Bm1WUZ7Fm3WVV6Jm1WWR5Nm3WXN4Rm1WYJ3Vm3WZF2Zm1WaB1dm3",
      "Wb70hm1Wc2_lm3WcZI3W1WevHU00WfrGY01WgnFc00WhjEg01WifDk00WjbCo01WkXBs00WlTAw01WmP9-00",
      "WnNSi01WoShGG0"],
    some ⟨7200, 10800, ⟨3, 5, 0, 10800⟩, ⟨10, 5, 0, 14400⟩⟩⟩,
  ⟨"Europe/Lisbon", -2205, [0, 3600, 7200],
    [
      "UIvew00URIsrm1UR_iU00USdFk01UToODm0UUVYy01UVghRm0UWNsA01UXY-fm0UYGUU01UZRczm0Ua8ni01",
      "UbJwBm0Ug1Uzm1Ugvr_m0UjoQVm1UkfoFm0Ule4zm1UmXmNm0UnYMlm1UoS29m0UpSeXm1UqK0Hm0UtCanm1",
      "Uu3yXm0Uu_xbm1Uvxwfm0UyoBVm1UzkAZm0U-drzm1U_c8hm0V0cl3m1V1U6pm0V2Q5tm1V3M4xm0V4FmLm1",
      "V5E33m0V6EfRm1V7MAnm0V7sTzm1V90z9m0V9yI1m1VAucBm0VBjLBm1VBxAFW2VCW4lW1VCtABm0VDbJJm1",
      "VDmqjW2VESgBW1VEnRzm0VFTHRm1VFh6VW2VGKeJW1VGfQ5m0VHLFZm1VHZ4dW2VICcRW1VIXODm0VJMSJm1",
      "VKIRNm0VLET4W1VMAS8W0VN6RCW1VO2QGW0VO-PKW1VPwOOW0VQsNSW1VRoMWW0VSkLaW1VTieIW0VUedMW1",
      "VVacQW0VWWbUW1VXSaYW0VYOZcW1VZKYgW0VaGXkW1VbCWoW0Vc8VsW1Vd6oaW0Ve2neW1Ve-miW0VfwlmW1",
      "VgskqW0VhojuW1VikiyW0Vjgi0W1Vkch4W0VlYg8W1VmUfCW0VnQeGW1VoOw-W0VpKw2W1VqGv6W0VrCuAW1",
      "Vs8tEW0Vt4sIW1Vu0rMW0VuyqQW1WCgoe00WDcni01WEYmm00WFX4MG1WGT3QG0WHP2UG1WIL1YG0WJJKGG1",
      "WKC_gG0WL8zs01WM4yw00WN0x-01WNyx200WOuw601WPqvA00WQmuE01WRlAy00WShA001WTd9400WUZ90G1",
      "WVV84G0WWR78G1WXN6CG0WYJ5GG1WZF4KG0WaB3OG1Wb72SG0Wc31WG1Wd1KEG0WdzJIG1WevIMG0WfrHQG1",
      "WhjFYG2WifEcG1WjbDgG2WkXCkG1WlTBoG2WmPAsG1WoShGG0"],
    some ⟨0, 3600, ⟨3, 5, 0, 3600⟩, ⟨10, 5, 0, 7200⟩⟩⟩,
  ⟨"Europe/London", -75, [0, 3600, 7200],
    [
      "SQNGdB0UR9gsW1URrWKW0USpp2W1UTfCEW0UUd9sW1UVbngW0UWXReW1UXTloW0UYPPmW1UZUyYW0UaJhYW1",
      "UbF_iW0Uc9M0W1Ud9yOW0UeAYmW1Uew_YW0Ug0DEW1UgrHKW0UhwV0W1UinsmW0UjoT8W1UkfquW0Ule7cW1",
      "UmXp0W0Unaj2W1UoS4oW0UpShAW1UqK2wW0UrILeW1UsC12W0UtCdQW1Uu3_AW0Uv4bYW1UvxzIW0UwwG0W1",
      "UxsF4W0UysrSW1UzkDCW0U-iVwW1U_cBKW0V0cniW1V1U9SW0V2UlqW1V3M7aW0V4KQIW1V5E5iW0V6Ei4W1",
      "V7MDQW0V7sWcW1VA5YQG2VAbrcG1VBqHwG2VCTpkG1VDiG2G2VEO5WG1VFaEAG2VGRbwG1VHSXOG2VH-p8G1",
      "VIQVuW0VJOocW1VKIU0W0VL7Y6W1VLGlsG2VLt-0G1VMJgmW0VM_WEW1VOBeuW0VO-PKW1VQ3d0W0VQw-mW1",
      "VRvHUW0VSoyuW1VTnFcW0VUjEgW1VVhXOW0VWbCoW1VXSaYW0VYQtGW1VZKYgW0VaL92W1VbCWoW0VcFQqW1",
      "Vd6oaW0Ve55IW1Ve-miW0Vf_N4W1VgskqW0VhtLCW1VikiyW0Vji_gW1Vkch4W0VlWMUW1VmdtqW0VnOKcW1",
      "VoVryW0VpIcOW1VqNq4W0Vr8GsW1VsFoCW0Vt0E-W1Vu7mKW0VuuD6W1Vv_kSW0VwmBEW1Vxw0EW0VyUwkW1",
      "W3SCOW0W4ALWW1W5KAWW0W62JeW1W7C8eW0W7wHmW1W946mW0W9oFuW1WAy4uW0WBiXgW1WCq30W0WDaVoW1",
      "WEi18W0WFSTwW1WGcIwW0WHKS2W1WIUH2W0WJCQAW1WKMFAW0WL8-kG1WMECQG0WN0ysG1WO6AYG0WOuw-G1",
      "WP-8gG0WQmv6G1WRuQSG0WShAuG1WTmOaG0WUZ90G1WVeMiG0WWR78G1WXWKqG0WYJ5GG1WZOIyG0WaB3OG1",
      "WbIakG0Wc31WG1WdAYsG0WdzJIG1Wf2W-G0WfrHQG1WgwV6G0WhjFYG1WioTEG0WjbDgG1WkgRMG0WlTBoG1",
      "WmYPUG0WnNTaG1"],
    some ⟨0, 3600, ⟨3, 5, 0, 3600⟩, ⟨10, 5, 0, 7200⟩⟩⟩,
  ⟨"Europe/Madrid", -884, [0, 3600, 7200],
    [
      "T-DhK00UUkiNm1UVe3a00UWa1lm1UXWMo00Ug1Uzm1Ugvsu00UjoQVm1Ukfp800Ule4zm1UmXnG00UnYNe01",
      "UoS3200UpSeXm1UqK1A00V2oUpm1V3M5q00V4I3_m1V4RHlW2V5ENHW1V78Lk00V7zOxm1VBzTvW2VCbN7m1",
      "VDmqjW2VEeDLm1VFeorW2VGWBTm1VHWmzW2VIO9bm1VJOl5W2VKG7jm1VP7aRW2VPwLlm1W83StW2W8z99m1",
      "W9xQ_W2WAr7Hm1WBknpW2WCgnlm1WDf3bW2WEYltm1WFX4MG2WGT3QG1WHP2UG2WIL1YG1WJJKGG2WKC_gG1",
      "WL8-kG2WM4zoG1WN0ysG2WNyxwG1WOuw-G2WPqw2G1WQmv6G2WRlBqG1WShAuG2WTd9yG1WUZ90G2WVV84G1",
      "WWR78G2WXN6CG1WYJ5GG2WZF4KG1WaB3OG2Wb72SG1Wc31WG2Wd1KEG1WdzJIG2WevIMG1WfrHQG2WgnGUG1",
      "WhjFYG2WifEcG1WjbDgG2WkXCkG1WlTBoG2WmPAsG1WnNTaG2"],
    some ⟨3600, 7200, ⟨3, 5, 0, 7200⟩, ⟨10, 5, 0, 10800⟩⟩⟩,
  ⟨"Europe/Malta", 3484, [3600, 7200],
    [
      "TmlTDa0UREFXm1URrSpW0USnSlm1UTjm1W0UUYVvm1UVe1pW0UWOANm1UXVgrW0UYN3Tm1UZJ1fW0V8R3Nm1",
      "VCvqiG0VDgHUG1VEeaCG0VFaEAG1VGRbwG0VHSXOG1VIJDBm0VJFZ6G1VKIT8G0VL7VTm1VMAPVm0VMwu2G1",
      "VO2POG0VvCxNm1VvsSJW0Vx7D9m1VxkRJm0Vy_BHm1VzcPRm0V-vT3m1V_WhDm0W0nRBm1W1OfLm0W2d5fm1",
      "W3GdTm0W4XNRm1W5AvFm0W66ZDm1W72YHm0W85nPm1W8sZHm0W9znIG1WAmWs00WBrlQG1WCeU-00WDjjYG1",
      "WEWT600WFbhgG1WGORE00WHTfoG1WIGPM00WJHLiG1WKAh800WL8-kG1WM4zoG0WN0ysG1WNyxwG0WOuw-G1",
      "WPqw2G0WQmv6G1WRlBqG0WShAuG1WTd9yG0WUZ90G1WVV84G0WWR78G1WXN6CG0WYJ5GG1WZF4KG0WaB3OG1",
      "Wb72SG0Wc31WG1Wd1KEG0WdzJIG1WevIMG0WfrHQG1WgnGUG0WhjFYG1WifEcG0WjbDgG1WkXCkG0WlTBoG1",
      "WmPAsG0WnNTaG1"],
    some ⟨3600, 7200, ⟨3, 5, 0, 7200⟩, ⟨10, 5, 0, 10800⟩⟩⟩,
  ⟨"Europe/Minsk", 6616, [6600, 7200, 10800, 3600, 14400],
    [
      "TMjiee0Ug6Qeu1Urf1bW2VANd3G1VCvqiG3VDgHUG1VEeaCG3VFaZGG1VG2W9W2WL9wVG4WM6Dn02WN2DjG4",
      "WN-W_02WOwWxG4WPsqD02WQp9FG4WRlA3m2WSh97m4WTd8Bm2WUZ7Fm4WVV6Jm2WWR5Nm4WXN4Rm2WYJ3Vm4",
      "WZF2Zm2WaB1dm4Wb70hm2WevHU01WfrGY02WgnFc01WhjEg02WifDk01WjbCo02WkXBs01WlTAw02WmP9-01",
      "WnNSi02WoSgO01WpFQq02WqKeW01Wr7Oy02WsCce01Ws_N402Wu6uQ01WutLC02Wv-sY01WwlJK02Wxsqg01",
      "Wyfb602Wzkoo01W-XZE02W_cmw01X0PXM02X1X2i01X2HVU02X3P0q01X49Tc02X5G-y01X61Rk02X78z401",
      "X7xjW02X90xC01X9phe02XAuvK01XBhfm02XCpB601XDZdu02"],
    none⟩,
  ⟨"Europe/Moscow", 9017, [9079, 12679, 16279, 14400, 10800, 18000, 7200],
    [
      "URNnx70UTFl9v1UUAkxv0UUzpbf2UVX5Vv1UWs6pf2UX03c03UXFAP04Ua46t03UaFJAm5Ub5MYm3UbFGF04",
      "Ud7aLG6Urf1bW4WL9wVG3WM6Dn04WN2DjG3WN-W_04WOwWxG3WPsqD04WQp9FG3WRlA3m4WSh97m3WTd8Bm4",
      "WUZ7Fm3WVV6Jm4WWR5Nm3WXN4Rm4WYJ3Vm3WZF2Zm4WaB1dm3Wb70hm4Wc2_lm3Wd1ITm4WevHU06WfUB-04",
      "WfrFfm3WgnEjm4WhjDnm3WifCrm4WjbBvm3WkXAzm4WlTA1m3WmP95m4WnNRpm3WoSfVm4WpFPxm3WqKddm4",
      "Wr7O3m3WsCblm4Ws_MBm3Wu6tXm4WutKJm3Wv-rfm4WwlIRm3Wxspnm4WyfaDm3Wzknvm4W-XYLm3W_cm1m4",
      "X0PWTm3X1X1pm4X2HUbm3X3O_xm4X49Sjm3X5G-3m4X61Qrm3X78yBm4X7xidm3X90wJm4X9pglm3XAuuRm4",
      "XBhetm3XCpADm4XDZc_m3XKJ1rW4"],
    none⟩,
  ⟨"Europe/Paris", 561, [0, 3600, 7200],
    [
      "UHO51F0URHtZm1URronm0USl95m1UTm4Zm0UUYVvm1UVe2hm0UWOANm1UXW0pm0UYBXBm1UZUapm0UaDO7m1",
      "UbNYDm0Uc9JNm1Ud9vlm0UeM2Pm1Uf1ttm0UfxZHm1Ugvr_m0Uhrr3m1Uinq7m0UjoQVm1UkfoFm0Ule4zm1",
      "UmXmNm0UnYMlm1UoS29m0UpSeXm1UqK0Hm0UrII_m1UsB-Pm0UtCanm1Uu3yXm0Uu_xbm1Uvxwfm0Uwrc3m1",
      "UxsCRm0UyoBVm1UzkAZm0U-drzm1U_c8hm0V0cl3m1V1U6pm0V2Q5tm1V3M4xm0V4FmLm1V5E33m0V6EfRm1",
      "V7MAnm0V7sWcW1V8R2VW2VCvqiG1VDgHUG2VEeaCG1VFaZGG2VGYV7m1VHSXOG2VIJa2G1WBkpa02WCgnlm1",
      "WDf6EG2WEYneG1WFX4MG2WGT3QG1WHP2UG2WIL1YG1WJJKGG2WKC_gG1WL8-kG2WM4zoG1WN0ysG2WNyxwG1",
      "WOuw-G2WPqw2G1WQmv6G2WRlBqG1WShAuG2WTd9yG1WUZ90G2WVV84G1WWR78G2WXN6CG1WYJ5GG2WZF4KG1",
      "WaB3OG2Wb72SG1Wc31WG2Wd1KEG1WdzJIG2WevIMG1WfrHQG2WgnGUG1WhjFYG2WifEcG1WjbDgG2WkXCkG1",
      "WlTBoG2WmPAsG1WnNTaG2"],
    some ⟨3600, 7200, ⟨3, 5, 0, 7200⟩, ⟨10, 5, 0, 10800⟩⟩⟩,
  ⟨"Europe/Prague", 3464, [3600, 7200, 0],
    [
      "Tip-hu0UR31TW1URrThm0USsQwG1UTfBMG0UUkP2G1UVX9UG0V82N6G1VCvqiG0VDgHUG1VEeaCG0VFaZGG1",
      "VGWYKG0VHSXOG1VIOWSG0VJW1oG1VKIT8G0VKaxGW2VL0d8W0VLJ3WG1VMARGG0VNB1eG1VO2POG0VP0N0G1",
      "VPwNWG0WHP2UG1WIL1YG0WJJKGG1WKC_gG0WL8-kG1WM4zoG0WN0ysG1WNyxwG0WOuw-G1WPqw2G0WQmv6G1",
      "WRlBqG0WShAuG1WTd9yG0WUZ90G1WVV84G0WWR78G1WXN6CG0WYJ5GG1WZF4KG0WaB3OG1Wb72SG0Wc31WG1",
      "Wd1KEG0WdzJIG1WevIMG0WfrHQG1WgnGUG0WhjFYG1WifEcG0WjbDgG1WkXCkG0WlTBoG1WmPAsG0WnNTaG1"],
    some ⟨3600, 7200, ⟨3, 5, 0, 7200⟩, ⟨10, 5, 0, 10800⟩⟩⟩,
  ⟨"Europe/Riga", 5794, [9394, 5794, 7200, 10800, 3600, 14400],
    [
      "UUkOV-0UVX8x-1UWY4P-0UWouB-1Ujv_7U2V8hsHW3VAOcLG2VCvqiG4VDgHUG2VEeaCG4VFaZGG2VGWYKG4",
      "VGa8bm3WL9wVG5WM6Dn03WN2DjG5WN-W_03WOwWxG5WPsqD03WQp9FG5WRlA3m3WSh97m5WTd8Bm3WUZ7Fm5",
      "WVV6Jm3WWR5Nm5WXN4Rm3WYJ3Vm5WZF2Zm3Wb71a02Wc30e03Wd1JM02WdzIQ03WevHU02WfrGY03WgnFc02",
      "WhjEg03WifDk02WjbCo03WkXBs02WlTAw03WmP9-02WnNSi03WoJRm02WpFRiG3WqKfOG2Wr7PqG3WsCdWG2",
      "Ws_NyG3Wu6vIG2WwlKCG3"],
    some ⟨7200, 10800, ⟨3, 5, 0, 10800⟩, ⟨10, 5, 0, 14400⟩⟩⟩,
  ⟨"Europe/Rome", 2996, [3600, 7200],
    [
      "Tml85m0UREFXm1URrSpW0USnSlm1UTjm1W0UUYVvm1UVe1pW0UWOANm1UXVgrW0UYN3Tm1UZJ1fW0V8R3Nm1",
      "VCvqiG0VDgHUG1VEeaCG0VFaZGG1VGRbwG0VHSXOG1VIJDBm0VJFZ6G1VKIT8G0VL7VTm1VMAPVm0VMwu2G1",
      "VO2POG0VvCxNm1VvsSJW0Vx7D9m1VxkRJm0Vy_BHm1VzcPRm0V-vT3m1V_WhDm0W0nRBm1W1OfLm0W2d5fm1",
      "W3GdTm0W4XNRm1W5AvFm0W6RfDm1W72tNm0W8HJhm1W8wrVm0WABbTm1WAopdm0WC3Zbm1WCgnlm0WDvE3m1",
      "WEYltm0WFpVrm1WGT1fm0WHhTzm1WIK_nm0WJJKGG1WKC_gG0WL8-kG1WM4zoG0WN0ysG1WNyxwG0WOuw-G1",
      "WPqw2G0WQmv6G1WRlBqG0WShAuG1WTd9yG0WUZ90G1WVV84G0WWR78G1WXN6CG0WYJ5GG1WZF4KG0WaB3OG1",
      "Wb72SG0Wc31WG1Wd1KEG0WdzJIG1WevIMG0WfrHQG1WgnGUG0WhjFYG1WifEcG0WjbDgG1WkXCkG0WlTBoG1",
      "WmPAsG0WnNTaG1"],
    some ⟨3600, 7200, ⟨3, 5, 0, 7200⟩, ⟨10, 5, 0, 10800⟩⟩⟩,
  ⟨"Europe/Samara", 12020, [10800, 14400, 18000],
    [
      "UX03c00Urf0jG1WL9vd02WM6Cum1WN2Cr02WN-W6m1WOwW302WPspKm1WQp8N02WRl9BW1WSh8FW2WTd7JW1",
      "WUZ6NW2WVV5RW1WWR4VW2WXN3ZW1WYJ2dW2WZF1hW1Wb70hm0Wc2_lm1Wd1ITm0Wf0CS01WfrEnW2WgnDrW1",
      "WhjCvW2WifBzW1WjbB1W2WkXA5W1WlT99W2WmP8DW1WnNQxW2WoSedW1WpFP3W2WqKclW1Wr7NBW2WsCatW1",
      "Ws_LJW2Wu6sfW1WutJRW2Wv-qnW1WwlHZW2WxsovW1WyfZLW2Wzkn1W1W-XXTW2W_cl9W1X0PVbW2X1X0xW1",
      "X2HTjW2X3O_3W1X49RrW2X5GzBW1X61PzW2X78xJW1X7xhlW2X90vRW1X9pftW2XAutZW1XCpADm0XDZc_m1"],
    none⟩,
  ⟨"Europe/Saratov", 11058, [10800, 14400, 18000],
    [
      "UX03c00Urf0jG1WL9vd02WM6Cum1WN2Cr02WN-W6m1WOwW302WPspKm1WQp8N02WRl9BW1WSh8FW2WTd7JW1",
      "WUZ6NW2WVV5RW1WWR4VW2WXN3ZW1WZF2Zm0WaB1dm1Wb70hm0Wc2_lm1Wd1ITm0WdzHXm1WgnEjm0WhjDnm1",
      "WifCrm0WjbBvm1WkXAzm0WlTA1m1WmP95m0WnNRpm1WoSfVm0WpFPxm1WqKddm0Wr7O3m1WsCblm0Ws_MBm1",
      "Wu6tXm0WutKJm1Wv-rfm0WwlIRm1Wxspnm0WyfaDm1Wzknvm0W-XYLm1W_cm1m0X0PWTm1X1X1pm0X2HUbm1",
      "X3O_xm0X49Sjm1X5G-3m0X61Qrm1X78yBm0X7xidm1X90wJm0X9pglm1XAuuRm0XBhetm1XCpADm0XDZc_m1",
      "XKJ1rW0XOGqvm1"],
    none⟩,
  ⟨"Europe/Simferopol", 8184, [8160, 7200, 10800, 3600, 14400],
    [
      "TMjiG80Ug6QGW1Urf1bW2VB18tG1VCvqiG3VDgHUG1VEeaCG3VFaZGG1VFdpZW2WL9wVG4WM6Dn02WN2DjG4",
      "WN-W_02WOwWxG4WPsqD02WQp9FG4WRlA3m2WSh97m4WTd8Bm2WUZ7Fm4WVV6Jm2WWR5Nm4WXN4Rm2WYJ3Vm4",
      "WZF2Zm2WaB1dm4Wb70hm2WcZIxm1WfrGY02WgnFc01WhjEg02WifDk01WjbCo02WjmiRG4WkXAzm2WlTA1m4",
      "WmP95m2WnNQ3G4WoSgO02WqKfOG1Wr7PqG2WsCdWG1Ws_NyG2Wu6vIG1WutM4G2Wv-tQG1WwlKCG2WxsrYG1",
      "Wyfb-G2WzkpgG1W-Xa6G2W_cnoG1X0PYEG2X1X3aG1X2HWMG2X3P1iG1X49UUG2X5G_qG1X61ScG2X78zyG1",
      "X7xkOG2X90y4G1X9piWG2XAuwCG1XBhgeG2XCpB-G1XDZemG2XEhA6G1XFRcuG2XGZ8EG1XHLugG2XIR6MG1",
      "XJDrw04XKJ1rW2"],
    none⟩,
  ⟨"Europe/Sofia", 5596, [7016, 7200, 3600, 10800],
    [
      "TMjiua0Tom-CO1VCvqiG2VDgHUG1VEeaCG2VFaZGG1VGWYKG2VHSYGW1WHO-zG3WILJ_W1WJJGlG3WKDI7W1",
      "WLBEtG3WM4y1m1WN3C_G3WNyx201WOuw603WPqvA01WQmuE03WRlAy01WShA003WTd9401WUZ8803WVV7C01",
      "WWR6G03WXN5K01WYJ4O03WZF3S01WaB2W03Wb71a01Wc30e03Wd1JM01WdzGfW3WevErG1WfrEnW3WgnCzG1",
      "WhjCvW3WifB5G1WjbB1W3WkX9DG1WlT99W3WmP7LG1WnNQxW3WoSdlG1WpFRiG3"],
    some ⟨7200, 10800, ⟨3, 5, 0, 10800⟩, ⟨10, 5, 0, 14400⟩⟩⟩,
  ⟨"Europe/Tallinn", 5940, [3600, 7200, 5940, 10800, 14400],
    [
      "UUMItC0UUkP2G1UVX9UG0UX02jm2UaSszC1V8iBNW3VAnfTG1VCvqiG0VDgHUG1VEeaCG0VFaZGG1VGTClW3",
      "WL9wVG4WM6Dn03WN2DjG4WN-W_03WOwWxG4WPsqD03WQp9FG4WRlA3m3WSh97m4WTd8Bm3WUZ7Fm4WVV6Jm3",
      "WWR5Nm4WXN4Rm3WYJ3Vm4WZF2Zm3Wb71a01Wc30e03Wd1JM01WdzIQ03WevHU01WfrGY03WgnFc01WhjEg03",
      "WifDk01WjbCo03WkXBs01WlTAw03WmP9-01WnNSi03WoSgO01WpFQq03WqKeW01Wr7Oy03WsCdWG1Ws_NyG3",
      "Wu6vIG1Wyfb-G3"],
    some ⟨7200, 10800, ⟨3, 5, 0, 10800⟩, ⟨10, 5, 0, 14400⟩⟩⟩,
  ⟨"Europe/Tirane", 4760, [3600, 7200],
    [
      "UMgZHe0V8ROTm1VCvqiG0VDgHUG1VDkEcG0W8A3dm1W8xpvW0WA1NZm1WAq77W0WBwKzm1WCj4XW0WDqclm1",
      "WEb2fW0WFiFnm1WGT0nW0WHaDvm1WIK-vW0WJSC1m1WKExbW0WLIBbm1WM4x9W0WNCTNm1WN_CxW0WP09Hm1",
      "WPsrzW0WQpA_m1WRlBqG0WShAuG1WTd9yG0WUZ90G1WVV84G0WWR78G1WXN6CG0WYJ5GG1WZF4KG0WaB3OG1",
      "Wb72SG0Wc31WG1Wd1KEG0WdzJIG1WevIMG0WfrHQG1WgnGUG0WhjFYG1WifEcG0WjbDgG1WkXCkG0WlTBoG1",
      "WmPAsG0WnNTaG1"],
    some ⟨3600, 7200, ⟨3, 5, 0, 7200⟩, ⟨10, 5, 0, 10800⟩⟩⟩,
  ⟨"Europe/Ulyanovsk", 11616, [10800, 14400, 18000, 7200],
    [
      "UX03c00Urf0jG1WL9vd02WM6Cum1WN2Cr02WN-W6m1WOwW302WPspKm1WQp8N02WRl9BW1WSh8FW2WTd7JW1",
      "WUZ6NW2WVV5RW1WWR4VW2WXN3ZW1WYJ2dW2WZF1hW1Wb70hm0Wc2_lm1Wd1ITm0WevHU03WfUB-00WfrFfm1",
      "WgnEjm0WhjDnm1WifCrm0WjbBvm1WkXAzm0WlTA1m1WmP95m0WnNRpm1WoSfVm0WpFPxm1WqKddm0Wr7O3m1",
      "WsCblm0Ws_MBm1Wu6tXm0WutKJm1Wv-rfm0WwlIRm1Wxspnm0WyfaDm1Wzknvm0W-XYLm1W_cm1m0X0PWTm1",
      "X1X1pm0X2HUbm1X3O_xm0X49Sjm1X5G-3m0X61Qrm1X78yBm0X7xidm1X90wJm0X9pglm1XAuuRm0XBhetm1",
      "XCpADm0XDZc_m1XKJ1rW0XMznHm1"],
    none⟩,
  ⟨"Europe/Vienna", 3921, [3600, 7200],
    [
      "Tlebyl0UR31TW1URrThm0USsQwG1UTfBMG0UUkP2G1UVX9UG0UYS1eG1UZH5kG0V82N6G1VCvqiG0VDgHUG1",
      "VEeaCG0VFaZGG1VGWYKG0VHSXOG1VHVqKG0VJOnkG1VKIoEG0VLESCG1VMARGG0VNB1eG1VO2POG0WJJIVm1",
      "WKCz1W0WL8-kG1WM4zoG0WN0ysG1WNyxwG0WOuw-G1WPqw2G0WQmv6G1WRlBqG0WShAuG1WTd9yG0WUZ90G1",
      "WVV84G0WWR78G1WXN6CG0WYJ5GG1WZF4KG0WaB3OG1Wb72SG0Wc31WG1Wd1KEG0WdzJIG1WevIMG0WfrHQG1",
      "WgnGUG0WhjFYG1WifEcG0WjbDgG1WkXCkG0WlTBoG1WmPAsG0WnNTaG1"],
    some ⟨3600, 7200, ⟨3, 5, 0, 7200⟩, ⟨10, 5, 0, 10800⟩⟩⟩,
  ⟨"Europe/Vilnius", 6076, [5040, 5736, 3600, 7200, 10800, 14400],
    [
      "TMjin40USJnzG1UXXKgO2UYyJ3m3UZPdXW2V8hCzm4VAMIhG3VCvqiG2VDgHUG3VEeaCG2VFaZGG3VGC3tW4",
      "WL9wVG5WM6Dn04WN2DjG5WN-W_04WOwWxG5WPsqD04WQp9FG5WRlA3m4WSh97m5WTd8Bm4WUZ7Fm5WVV6Jm4",
      "WWR5Nm5WXN4Rm4WYJ3Vm5WZF2Zm4Wb71a03Wc30e04Wd1JM03WdzIQ04WevHU03WfrGY04WgnFc03WhjEg04",
      "WifDk03WjbCo04WkXBs03WlTAw04WmP9-03WnNSi04WoSgO03WpFQq04WqKeW03WsCdWG2Ws_NyG3W-Xa6G4"],
    some ⟨7200, 10800, ⟨3, 5, 0, 10800⟩, ⟨10, 5, 0, 14400⟩⟩⟩,
  ⟨"Europe/Volgograd", 10660, [10800, 14400, 18000],
    [
      "UXzKRS0Urf0jG1WL9vd02WM6Cum1WN2Cr02WN-W6m1WOwW302WPspKm1WQp8N02WRl9BW1WSh8FW2WTd7JW1",
      "WUZ6NW2WVV5RW1WWR4VW2WXN3ZW1WZF2Zm0WaB1dm1Wb70hm0Wc2_lm1Wd1ITm0WdzHXm1WgnEjm0WhjDnm1",
      "WifCrm0WjbBvm1WkXAzm0WlTA1m1WmP95m0WnNRpm1WoSfVm0WpFPxm1WqKddm0Wr7O3m1WsCblm0Ws_MBm1",
      "Wu6tXm0WutKJm1Wv-rfm0WwlIRm1Wxspnm0WyfaDm1Wzknvm0W-XYLm1W_cm1m0X0PWTm1X1X1pm0X2HUbm1",
      "X3O_xm0X49Sjm1X5G-3m0X61Qrm1X78yBm0X7xidm1X90wJm0X9pglm1XAuuRm0XBhetm1XCpADm0XDZc_m1",
      "XKJ1rW0XRrEtm1XVvx9W0"],
    none⟩,
  ⟨"Europe/Warsaw", 5040, [3600, 7200, 10800],
    [
      "UPg2hG0UR31TW1URrThm0USsQwG1UTfBMG0UUkP2G1UWchO02UXPRq01UcVNnW0V8TjuG1VCvqiG0VDgHUG1",
      "VEeaCG0VFaZGG1VGXBe00VHbP9m1VIYhjW0VJOlzm1VKIoEG0VLNgqG1VMARGG0VNB1eG1VO2POG0VP0i6G1",
      "VPwNWG0VeLD801VeyRI00VfuQM01VgqPQ00Vi59O01VikhC00VjggG01VkcfK00Vlr5e01VmUdS00Vnj3m01",
      "VoMba00Vpb1u01VqEZi00VrVJg01Vs6Xq00WDf5M01WEYmm00WFX3U01WGT2Y00WHP1c01WIL0g00WJJJO01",
      "WKC-o00WL8zs01WM4yw00WN0x-01WNyx200WOuw601WPqvA00WQmuE01WRlAy00WShA001WTd9400WUZ8801",
      "WVV7C00WWR6G01WXN5K00WYJ5GG1WZF4KG0WaB3OG1Wb72SG0Wc31WG1Wd1KEG0WdzJIG1WevIMG0WfrHQG1",
      "WgnGUG0WhjFYG1WifEcG0WjbDgG1WkXCkG0WlTBoG1WmPAsG0WnNTaG1"],
    some ⟨3600, 7200, ⟨3, 5, 0, 7200⟩, ⟨10, 5, 0, 10800⟩⟩⟩,
  ⟨"Europe/Zurich", 2048, [1786, 3600, 7200],
    [
      "SayEg00Tnr0Q61VA5se02VAud401VBzqm02VCmbC01WL8-kG2WM4zoG1WN0ysG2WNyxwG1WOuw-G2WPqw2G1",
      "WQmv6G2WRlBqG1WShAuG2WTd9yG1WUZ90G2WVV84G1WWR78G2WXN6CG1WYJ5GG2WZF4KG1WaB3OG2Wb72SG1",
      "Wc31WG2Wd1KEG1WdzJIG2WevIMG1WfrHQG2WgnGUG1WhjFYG2WifEcG1WjbDgG2WkXCkG1WlTBoG2WmPAsG1",
      "WnNTaG2"],
    some ⟨3600, 7200, ⟨3, 5, 0, 7200⟩, ⟨10, 5, 0, 10800⟩⟩⟩]

end Timetable.Zone
