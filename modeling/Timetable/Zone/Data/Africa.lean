import Timetable.Zone.Entry

/-!
Time zones of the area Africa.
-/
namespace Timetable.Zone

def entriesAfrica : List Entry := [
  ⟨"Africa/Abidjan", -968, [0],
    ["UIvf980"],
    none⟩,
  ⟨"Africa/Algiers", 732, [561, 0, 3600, 7200],
    [
      "ThoPia0UHO51F1URHtZm2URronm1USl95m2UTm4Zm1UUYVvm2UVe2hm1UWOANm2UXW0pm1UYBXBm2UZUapm1",
      "UaDO7m2Uak0Pm1V6_mPm2V7MBg01V7sWcW2VFaZGG3VGYW002VHSXOG3VIJYHm2VKImTm1VbpjC02VpNB3m1",
      "W2UC7m2W3GyZm1WDpzS02WFU5e03WGQ5aG2WITaDm1WJPaA02WKNtmG1WLJry02"],
    none⟩,
  ⟨"Africa/Bissau", -3740, [-3600, 0],
    ["UIvfoG0W9Ps4G1"],
    none⟩,
  ⟨"Africa/Cairo", 7509, [7200, 10800],
    [
      "TzlKsh0V8axJW1V8-dlG0V9_E_W1VAn-ZG0VBowvW1VCtodG0VDhE7W1VEnlJG0VFZsRW1VGgNdG0VHX63W1",
      "VIYgrG0VeDcDW1Vez2rG0Vg2xbW1VgrM3G0VhxFhm1VijMq00Vjpt_m1Vkb_800VliBDm1VmUIM00VnaURm1",
      "VoMba00VpSnfm1VqEuo00VrLPzm1Vs7X600VtDjBm1Vt_qK00Vv60Pm1VvuSe00Vw-Jdm1Vxmls00Vysxxm1",
      "VzfOA00V-lF9m1V_XhO00W0dYNm1W1P-c00W2Vrbm1W3IHq00W4OTvm1W5Aw800W6Gn7m1W73DM00W894Lm1",
      "W8xWa00WA1NZm1WAppo00WBv_tm1WCiS600WDoJ5m1WEalK00WFgcJm1WGT2Y00WHYvXm1WILLm00WJRXrm1",
      "WKD-400WLJr3m1WM6HI00WNe9Fm1WN-aW00WPSAFm1WPstk00WQz3pm1WRlW200WSrN1m1WTdpG00WUjgFm1",
      "WVW6U00WWbzTm1WXOPi00WYUbnm1WZH2000WaOYTm1Wb9LE00WcFCDm1Wd1eS00We7VRm1Wevxg00Wg07lm1",
      "WgoZ-00WhuQzm1WigtC00WjmkBm1WkZAQ00Wle1FW1WmQmpG0WnV_NW1WoIkxG0WpNzVW1WqAj3G0WrFxdW1",
      "Ws2hBG0WtADPW1WtyyzG0Wv2BXW1Wvqx5G0Www9fW1WxivDG0Wyo7nW1WzatLG0W-g5vW1W_SrTG0X0aNhW1",
      "X1N7FG0X2SLpW1X3F5NG0X4KJxW1X54lrG0X6CI3W1X6u6fG0X84GBW1X8jn7G0X9yEJW1XAZRbG0XBsW5W1",
      "XCORtG0XCYLZW1XCfFfG0XJTJZW1XJh8dG0XJshnW1XK989G0XaIl1W1"],
    some ⟨7200, 10800, ⟨4, 5, 5, 0⟩, ⟨10, 5, 4, 86400⟩⟩⟩,
  ⟨"Africa/Casablanca", -1820, [0, 3600],
    [
      "UMKVcS0V6_nI01V7MAnm0V7sUs01VIeJBm0VRDQG01VRxYVm0Vx9N901Vxmkzm0W8QuI01W8nctm0WBw0m01",
      "WCOKVm0WDoJ-01WEZl9m0WFqr601WG9wDm0WQjwO01WU66_m0X8GUQ01X8ko9m0XA8ne01XAZTLm0XBtC201",
      "XCNULm0XDbxY01XED8pm0XFdA2W1XG2BkW0XGCPeW1XGPwUW0XHV8AW1XHsCkW0XI1PwW1XIR7EW0XJDtgW1",
      "XJhY6W0XJt4OW1XKJ5MW0XL5roW1XLVE0W0XLgmIW1XMB3UW0XMzpwW1XNKuUW0XNWQmW1XO5LGW0XOro2W1",
      "XP8FIW0XPM5EW1XPzJOW0XQjmAW1XQzvmW0XR9S2W1XSpaEW0XS_6WW1XUcx2W0XUqm-W1XWSbWW0XWe7oW1",
      "XYFyKW0XYToGW1Xa5coW0XaH94W1XbxHGW0Xc6pYW1Xdke4W0XdyU0W1XfaIYW0XflqqW1XhPz0W0XhbVIW1",
      "XjDJqW0XjR9mW1Xl2-IW0XlEWaW1XmsL6W0Xn4B2W1Xoh_aW0XotXsW1XqXg2W0XqjCKW1XsL0sW0XsYsoW1",
      "XuAhKW0XuMDcW1Xv-28W0XwBu4W1XxpicW0Xy1YYW1XzfN4W0XzqvMW1X_SjuW0X_gZqW1Y1IOMW0Y1TweW1",
      "Y382qW0Y3Jb6W1Y4xPeW0Y59FaW1Y6n46W0Y6ycOW1Y8aQwW0Y8oGsW1YAQ5OW0YAdxKW1YCFlsW0YCRI8W1",
      "YE36gW0YEGycW1YFun8W0YG4JQW1YHkRcW0YHvzuW1YJXoQW0YJleMW1YLNSuW0YLY_AW1YNApiW0YNOfeW1",
      "YP0UAW0YPEK6W1YQs8eW0YR1gwW1YSfVSW0YStLOW1YUV9wW0YUgiCW1YWKqOW0YWWMgW1YY8BCW0YYM18W1",
      "YZzrgW0Ya9NyW1YbnCUW0Yb_2QW1YdcsyW0YdqiuW1YfSXQW0Yfe3iW1YhFuEW0YhTkAW1Yj5YiW0YjH4-W1",
      "YkxDAW0Yl6lSW1YmkZ-W0YmyPwW1YoaESW0YolmkW1YqNbGW0YqbRCW1YsDFkW0YsR5gW1Yu2wCW0YuESUW1",
      "YvsH0W0Yw46yW1YxhxUW0YxtTmW1YzXbyW0Yzj8EW1Y_KymW0Y_YoiW1Z1AdEW0Z1M9WW1Z2z-2W0Z3Bp-W1",
      "Z4peWW0Z51USW1Z6fI-W0Z6qrGW1Z8SfoW0Z8gVkW1ZAIKGW0ZATsYW1ZC7-kW0ZCJX0W1ZDxLYW0ZE9BUW1",
      "ZFn00W0ZFyYIW1ZHaMqW0ZHoCmW1ZJQ1IW0ZJbZaW1ZLFhmW0ZLRE2W1ZN32aW0ZNGuWW1ZOuj2W0ZP4FKW1",
      "ZQkNWW0ZQvvoW1ZSXkKW0ZSlaGW1"],
    none⟩,
  ⟨"Africa/Ceuta", -1276, [0, 3600, 7200],
    [
      "T-DhK00UUrdLm1UVeMvW0Ug1Uzm1Ugvsu00UjoQVm1Ukfp800Ule4zm1UmXnG00UnYNe01UoS3200Vx9N901",
      "Vxmkzm0W8QuI01W8nctm0WBw0m01WCOKVm0WDoJ-01WEZl9m0WFqr601WG9wDm0WQjwO01WUZ90G2WVV84G1",
      "WWR78G2WXN6CG1WYJ5GG2WZF4KG1WaB3OG2Wb72SG1Wc31WG2Wd1KEG1WdzJIG2WevIMG1WfrHQG2WgnGUG1",
      "WhjFYG2WifEcG1WjbDgG2WkXCkG1WlTBoG2WmPAsG1WnNTaG2"],
    some ⟨3600, 7200, ⟨3, 5, 0, 7200⟩, ⟨10, 5, 0, 10800⟩⟩⟩,
  ⟨"Africa/El_Aaiun", -3168, [-3600, 0, 3600],
    [
      "UyIF3W0WBqR2G1WBw0m02WCOKVm1WDoJ-02WEZl9m1WFqr602WG9wDm1X8GUQ02X8ko9m1XA8ne02XAZTLm1",
      "XBtC202XCNULm1XDbxY02XED8pm1XFdA2W2XG2BkW1XGCPeW2XGPwUW1XHV8AW2XHsCkW1XI1PwW2XIR7EW1",
      "XJDtgW2XJhY6W1XJt4OW2XKJ5MW1XL5roW2XLVE0W1XLgmIW2XMB3UW1XMzpwW2XNKuUW1XNWQmW2XO5LGW1",
      "XOro2W2XP8FIW1XPM5EW2XPzJOW1XQjmAW2XQzvmW1XR9S2W2XSpaEW1XS_6WW2XUcx2W1XUqm-W2XWSbWW1",
      "XWe7oW2XYFyKW1XYToGW2Xa5coW1XaH94W2XbxHGW1Xc6pYW2Xdke4W1XdyU0W2XfaIYW1XflqqW2XhPz0W1",
      "XhbVIW2XjDJqW1XjR9mW2Xl2-IW1XlEWaW2XmsL6W1Xn4B2W2Xoh_aW1XotXsW2XqXg2W1XqjCKW2XsL0sW1",
      "XsYsoW2XuAhKW1XuMDcW2Xv-28W1XwBu4W2XxpicW1Xy1YYW2XzfN4W1XzqvMW2X_SjuW1X_gZqW2Y1IOMW1",
      "Y1TweW2Y382qW1Y3Jb6W2Y4xPeW1Y59FaW2Y6n46W1Y6ycOW2Y8aQwW1Y8oGsW2YAQ5OW1YAdxKW2YCFlsW1",
      "YCRI8W2YE36gW1YEGycW2YFun8W1YG4JQW2YHkRcW1YHvzuW2YJXoQW1YJleMW2YLNSuW1YLY_AW2YNApiW1",
      "YNOfeW2YP0UAW1YPEK6W2YQs8eW1YR1gwW2YSfVSW1YStLOW2YUV9wW1YUgiCW2YWKqOW1YWWMgW2YY8BCW1",
      "YYM18W2YZzrgW1Ya9NyW2YbnCUW1Yb_2QW2YdcsyW1YdqiuW2YfSXQW1Yfe3iW2YhFuEW1YhTkAW2Yj5YiW1",
      "YjH4-W2YkxDAW1Yl6lSW2YmkZ-W1YmyPwW2YoaESW1YolmkW2YqNbGW1YqbRCW2YsDFkW1YsR5gW2Yu2wCW1",
      "YuESUW2YvsH0W1Yw46yW2YxhxUW1YxtTmW2YzXbyW1Yzj8EW2Y_KymW1Y_YoiW2Z1AdEW1Z1M9WW2Z2z-2W1",
      "Z3Bp-W2Z4peWW1Z51USW2Z6fI-W1Z6qrGW2Z8SfoW1Z8gVkW2ZAIKGW1ZATsYW2ZC7-kW1ZCJX0W2ZDxLYW1",
      "ZE9BUW2ZFn00W1ZFyYIW2ZHaMqW1ZHoCmW2ZJQ1IW1ZJbZaW2ZLFhmW1ZLRE2W2ZN32aW1ZNGuWW2ZOuj2W1",
      "ZP4FKW2ZQkNWW1ZQvvoW2ZSXkKW1ZSlaGW2"],
    none⟩,
  ⟨"Africa/Johannesburg", 6720, [5400, 7200, 10800],
    ["TjUq500U2Hize1VCheo02VDdczm1VEZcw02VFVb5m1"],
    none⟩,
  ⟨"Africa/Juba", 7588, [7200, 10800],
    [
      "UsezhS0W0dXVW1W1UZHG0W2VVdW1W3MsVG0W4O7xW1W5FUpG0W6G63W1W77o1G0W884BW1W905FG0WA02JW1",
      "WAuOTG0WBu0RW1WCn0nG0WDl-ZW1WEfJ_G0WFgGLW1WGXdDG0WHYETW1WIPwRG0WJQCbW1WKIYlG0WLIAjW1",
      "WMArzG0WNA8rW1WO39BG0WP26zW1WPxSPG0WQyOlW1WRq4jG0WSqMtW1WTiNxG0WuW4KW1XW5nfG0"],
    none⟩,
  ⟨"Africa/Khartoum", 7808, [7200, 10800],
    [
      "Useze00W0dXVW1W1UZHG0W2VVdW1W3MsVG0W4O7xW1W5FUpG0W6G63W1W77o1G0W884BW1W905FG0WA02JW1",
      "WAuOTG0WBu0RW1WCn0nG0WDl-ZW1WEfJ_G0WFgGLW1WGXdDG0WHYETW1WIPwRG0WJQCbW1WKIYlG0WLIAjW1",
      "WMArzG0WNA8rW1WO39BG0WP26zW1WPxSPG0WQyOlW1WRq4jG0WSqMtW1WTiNxG0WuW4KW1XP-EHG0"],
    none⟩,
  ⟨"Africa/Lagos", 815, [0, 815, 1800, 3600],
    ["U6gt3H0UCK6001UMgaFH2UXKUzu3"],
    none⟩,
  ⟨"Africa/Maputo", 7818, [7200],
    ["UDGjLs0"],
    none⟩,
  ⟨"Africa/Monrovia", -2588, [-2670, 0],
    ["UWNsoS0W3obfk1"],
    none⟩,
  ⟨"Africa/Nairobi", 8836, [9000, 10800, 9900],
    ["UB_z7y0UnxjfO1Uqn-3G0V1xQrO2VCR7hK1"],
    none⟩,
  ⟨"Africa/Ndjamena", 3612, [3600, 7200],
    ["UIve1a0WIPd5m1WJ9jvW0"],
    none⟩,
  ⟨"Africa/Sao_Tome", 1616, [-2205, 0, 3600],
    ["TUFFqm0UIvew01XQIOWG2XSAhkG1"],
    none⟩,
  ⟨"Africa/Tripoli", 3164, [3600, 7200],
    [
      "UXyi4a0VTkx4G1VU8wrW0VXUD8G1VXvsNW0VbBpzm1VbgSpW0VhJiRm1WMaa9W0WN2FTm1WN-YlW0WOwYhm1",
      "WPsrzW0WQpA_m1WRlUHW0WSj7hm1WTdnVW0WUamjm1WVWkvW0WWS4fm1WXONxW0WYKizm1WZH0FW0WaD0Bm1",
      "Wb9JTW0WcGBVm1WoJl5W0WpH3Pm1XGdPa00XHLDc01"],
    none⟩,
  ⟨"Africa/Tunis", 2444, [561, 3600, 7200],
    [
      "TPHXFq0UHO51F1V6EeZW2V7M9vW1V7soBW2VAubJW1VBhMdm2VCvqiG1VDgHUG2VDmXO01VDpB0G2VEeZK01",
      "VFaZGG2VGYUFW1VHSXOG2VIJXPW1WDnz_m2WEYQnm1WFgcJm2WGT1fm1WYephm2WZF2Zm1WaB1dm2Wb70hm1",
      "WcFCDm2Wd1ITm1X2T0tm2X3F8001X49UUG2X5G_qG1X61ScG2X78zyG1X7xkOG2X90y4G1"],
    none⟩,
  ⟨"Africa/Windhoek", 4104, [5400, 7200, 10800, 3600],
    [
      "TjUqju0U2Hize1VCheo02VDdczm1WjZCTW3WkQHmG1WlVUa03WmIFuG1WnPmM03WoAE0G1WpHkU03Wq4VoG1",
      "Wr9ic03WryTwG1Wt1gk03WtqS2G1Wuves03WviQAG1Wwnc-03WxaOIG1Wyhum03WzSMQG1W-Zsu03W_MeCG1",
      "X0Rr003X1EcKG1X2Jp803X36aSG1X4BnG03X4-YaG1X63lO03X6sWiG1X7-1A03X8moUG1X9r_I03XAemcG1",
      "XBjzQ03XCWkkG1XDbxY03XEOisG1XFTvg03XGGg-G1XHOBS03XI8f6G1XJG9a03XK2wuG1XL87i03XLwv0G1",
      "XN05q03XNot8G1XOu3y03XPgrGG1"],
    none⟩]

end Timetable.Zone
